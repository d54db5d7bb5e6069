import Mathlib.Tactic.SplitIfs
import StyleTokens.Log.System

/-!
# Who a logger speaks for

Components whose names differ only in case and blanks share a logger. Each of them adds its filter,
and the filters run in the order in which they were added; but the first of them names a component
in every record that has none, so the others find one named. A logger therefore speaks for the
component that asked for it first, whoever asks for it later, and a component is named in its own
records exactly if it came before the others.
-/

namespace StyleTokens.Log

namespace Loggers

/-- The loggers after components have asked for theirs, one after the other. -/
def after (asked : List String) : Loggers := asked.foldl request empty

/-- The component that a logger speaks for: that of its first filter. -/
def speaker? (loggers : Loggers) (logger : String) : Option String :=
  (loggers.filters logger).head?

/-- A component is the first of some to ask for a logger. -/
structure IsFirst (asked : List String) (logger component : String) : Prop where
  /-- The logger is the component's. -/
  own : loggerName component = logger
  /-- Those who asked before it asked for other loggers. -/
  first : ∃ before rest, asked = before ++ component :: rest ∧
    ∀ other ∈ before, loggerName other ≠ logger

/-- Filters leave the component that a record names; the first one gives a record that names none
its own. -/
theorem tag_eq (loggers : Loggers) (logger : String) (named : Option String) :
    loggers.tag logger named = named.or (loggers.speaker? logger) := by
  have hfold : ∀ filters : List String,
      filters.foldl (fun named filter => named.or (some filter)) named =
        named.or filters.head? := by
    intro filters
    induction filters generalizing named with
    | nil => cases named <;> rfl
    | cons filter rest ih => rw [List.foldl_cons, ih]; cases named <;> rfl
  exact hfold _

/-! ### Requests -/

/-- A request gives a logger that speaks for nobody to the component that asks for it, and changes
no other. -/
theorem speaker?_request (loggers : Loggers) (component logger : String) :
    (loggers.request component).speaker? logger =
      (loggers.speaker? logger).or
        (if loggerName component = logger then some component else none) := by
  unfold request speaker? filters
  split_ifs with hknown hname hname
  · have hmem : component ∈ loggers.components.filter fun other => loggerName other == logger := by
      simpa [hname] using hknown
    obtain ⟨filter, rest, hfilters⟩ := List.exists_cons_of_ne_nil (List.ne_nil_of_mem hmem)
    rw [hfilters]
    rfl
  · rw [Option.or_none]
  · simp [List.filter_append, hname]
  · simp [List.filter_append, hname]

/-- In a run of requests, a logger that speaks for nobody goes to the first who asks for it. -/
theorem speaker?_foldl_request (asked : List String) (loggers : Loggers) (logger : String) :
    (asked.foldl request loggers).speaker? logger =
      (loggers.speaker? logger).or
        (asked.find? fun component => loggerName component == logger) := by
  induction asked generalizing loggers with
  | nil => rw [List.foldl_nil, List.find?_nil, Option.or_none]
  | cons component rest ih =>
    rw [List.foldl_cons, ih, speaker?_request, Option.or_assoc, List.find?_cons]
    by_cases hname : loggerName component = logger
    · simp [hname]
    · rw [if_neg hname, Option.none_or, beq_eq_false_iff_ne.mpr hname]

theorem speaker?_after_eq_some_iff {asked : List String} {logger component : String} :
    (after asked).speaker? logger = some component ↔ IsFirst asked logger component := by
  have hnobody : empty.speaker? logger = none := rfl
  rw [after, speaker?_foldl_request, hnobody, Option.none_or, List.find?_eq_some_iff_append]
  simp only [beq_iff_eq, Bool.not_eq_eq_eq_not, Bool.not_true, beq_eq_false_iff_ne]
  exact ⟨fun h => ⟨h.1, h.2⟩, fun h => ⟨h.own, h.first⟩⟩

/-- There is at most one first component to ask for a logger. -/
theorem IsFirst.unique {asked : List String} {logger component other : String}
    (h : IsFirst asked logger component) (hother : IsFirst asked logger other) :
    component = other :=
  Option.some.inj ((speaker?_after_eq_some_iff.mpr h).symm.trans
    (speaker?_after_eq_some_iff.mpr hother))

/-- A logger that speaks for somebody goes on doing so. -/
theorem speaker?_after_append {asked : List String} {logger component : String}
    (h : (after asked).speaker? logger = some component) (later : List String) :
    (after (asked ++ later)).speaker? logger = some component := by
  rw [after, List.foldl_append, speaker?_foldl_request, ← after, h, Option.some_or]

end Loggers

open Loggers

/-- The log of a program in which some components have asked for their loggers. -/
def System.heard (system : System) (asked : List String) : System :=
  { system with loggers := after asked }

/-- A record that is noted without a component comes to what it would come to with the component
that its logger speaks for. -/
theorem System.note_eq_of_speaker? {system : System} {logger component : String}
    (h : system.loggers.speaker? logger = some component) (level : Level) (message : String)
    (context : Value) :
    system.note ⟨level, logger, message⟩ none context =
      system.note ⟨level, logger, message⟩ (some component) context := by
  unfold System.note
  rw [tag_eq, tag_eq, h]
  rfl

/-- The records of a component that has asked for its logger name that component exactly if nobody
asked for the same logger before. What they name is the first who did, whoever asks later, and they
are noted as if they named it themselves; a record that names a component keeps it. -/
theorem tag_own_iff {asked : List String} {component : String} (h : component ∈ asked) :
    ((after asked).tag (loggerName component) none = some component ↔
      IsFirst asked (loggerName component) component) ∧
    ∃ first, IsFirst asked (loggerName component) first ∧ ∀ later,
      (∀ named, (after (asked ++ later)).tag (loggerName component) named =
        some (named.getD first)) ∧
      ∀ (system : System) (level : Level) (message : String) (context : Value),
        (system.heard (asked ++ later)).note ⟨level, loggerName component, message⟩ none context =
          (system.heard (asked ++ later)).note ⟨level, loggerName component, message⟩ (some first)
            context := by
  constructor
  · rw [tag_eq, Option.none_or, speaker?_after_eq_some_iff]
  obtain ⟨first, hfirst⟩ : ∃ first, (after asked).speaker? (loggerName component) = some first := by
    have hsome : (asked.find? fun other => loggerName other == loggerName component).isSome := by
      rw [List.find?_isSome]
      exact ⟨component, h, beq_self_eq_true _⟩
    obtain ⟨first, hfound⟩ := Option.isSome_iff_exists.mp hsome
    exact ⟨first, (speaker?_foldl_request asked empty _).trans (by rw [hfound]; rfl)⟩
  refine ⟨first, speaker?_after_eq_some_iff.mp hfirst, fun later => ⟨fun named => ?_, ?_⟩⟩
  · rw [tag_eq, speaker?_after_append hfirst later]
    cases named <;> rfl
  · intro system
    have hspeaks : (system.heard (asked ++ later)).loggers.speaker? (loggerName component) =
        some first := speaker?_after_append hfirst later
    exact System.note_eq_of_speaker? hspeaks

/-- Two components that share a logger. -/
def twoSharing : List String := ["Preview Runtime", "preview_runtime"]

theorem isFirst_twoSharing :
    IsFirst twoSharing (loggerName "preview_runtime") "Preview Runtime" :=
  ⟨by decide +kernel, [], ["preview_runtime"], rfl, by simp⟩

/-- The second of the two is not named in its own records; the first one is, and stays so when
another one asks for the same logger. -/
theorem tag_own_iff_twoSharing :
    "preview_runtime" ∈ twoSharing ∧
      (after twoSharing).tag (loggerName "preview_runtime") none ≠ some "preview_runtime" ∧
      (after (twoSharing ++ ["PREVIEW RUNTIME"])).tag (loggerName "preview_runtime") none =
        some "Preview Runtime" := by
  have hmem : "preview_runtime" ∈ twoSharing := by decide
  obtain ⟨hown, first, hfirst, hlater⟩ := tag_own_iff hmem
  obtain rfl := hfirst.unique isFirst_twoSharing
  refine ⟨hmem, fun hnamed => ?_, (hlater ["PREVIEW RUNTIME"]).1 none⟩
  exact absurd ((hown.mp hnamed).unique isFirst_twoSharing) (by decide)

/-- A component that has asked for its logger is not always named in its records. -/
theorem not_tag_own :
    ¬∀ (asked : List String) (component : String), component ∈ asked →
      (after asked).tag (loggerName component) none = some component := by
  intro h
  have hnamed := h twoSharing "preview_runtime" (by decide)
  rw [tag_eq, Option.none_or, speaker?_after_eq_some_iff.mpr isFirst_twoSharing] at hnamed
  exact absurd hnamed (by decide)

end StyleTokens.Log
