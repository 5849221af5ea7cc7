import TaggedMachine.Log.Directive

/-!
Filters on log records. A filter is a list of directives, written between commas. Of the
directives that apply to a record the most specific one decides, of equals the last one,
and a record to which none applies is not shown.
-/
namespace TaggedMachine.Log

abbrev Filter := List Directive

namespace Filter

def moreSpecific (best : Option Directive) (directive : Directive) : Option Directive :=
  match best with
  | some other => if directive.isAsSpecificAs other then some directive else some other
  | none => some directive

def deciding (filter : Filter) (record : Record) : Option Directive :=
  (filter.filter (Directive.appliesTo · record)).foldl moreSpecific none

def admits (filter : Filter) (record : Record) : Bool :=
  match deciding filter record with
  | some directive => record.level.shownUnder directive.limit
  | none => false

/-- A text with no directive in it shows errors only. -/
def parse? (text : String) : Option Filter :=
  match (text.splitOn ",").filter (· ≠ "") with
  | [] => some [.general (some .error)]
  | parts => parts.mapM Directive.parse?

/-- The filter of a setting; one that is missing or cannot be read shows everything up
to `info`. -/
def ofSetting (setting : Option String) : Filter :=
  (setting.bind parse?).getD [.general (some .info)]

end Filter

end TaggedMachine.Log
