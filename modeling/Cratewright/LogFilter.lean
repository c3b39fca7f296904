/-
Filters of log messages.

A filter is a list of directives between commas. Of two directives for the same messages the
later one stands, and the more specific directives come first.
-/
import Cratewright.LogFilter.Directive
import Cratewright.SortedMap

namespace Cratewright

namespace LogFilter

/-- Whether a directive is settled by what is known of a message before it is made. -/
def isSettled (s : LogScope) : Bool := s.span.isNone && s.fieldValue.isNone

/-- Whether a directive depends on the spans and values around a message. -/
def isDynamic (s : LogScope) : Bool := s.span.isSome || s.field.isSome

/-- The directives of some scopes, the most specific first. -/
def select (p : LogScope → Bool) (ds : List LogDirective) : List LogDirective :=
  ((SortedMap.ofList ((ds.filter (p ·.scope)).map fun d => (d.scope, d.level))).entries.map
    fun e => (⟨e.1, e.2⟩ : LogDirective)).reverse

/-- The filter of directives: those settled beforehand, then those that depend on spans. -/
def ofDirectives (ds : List LogDirective) : List LogDirective :=
  let dynamic := ds.filter (isDynamic ·.scope)
  let static := ds.filter (! isDynamic ·.scope)
  select isSettled (static ++ dynamic) ++ select isDynamic ds

/-- Reads a filter. -/
def parse? (s : String) : Option (List LogDirective) :=
  (((Text.splitAt ',' s.toList).filter (! ·.isEmpty)).mapM LogDirective.parse?).map ofDirectives

/-- The text of a filter. -/
def text (ds : List LogDirective) : String := ",".intercalate (ds.map LogDirective.text)

/-- The variable of the environment that sets the filter. -/
def variableName : String := "SMITHYGEN_LOG"

/-- The filter when none is set, or one that cannot be read. -/
def fallback : List LogDirective := [⟨{}, .warn⟩]

/-- The filter that the environment sets. -/
def ofEnvironment (value : Option String) : List LogDirective :=
  (value.bind parse?).getD fallback

end LogFilter

end Cratewright
