import Testbook.Registry.Basic

/-!
What registries say. A declaration is about one target and says one thing about it, and a registry
is known by what it says about each target (`content?_declare`): the order of declarations about
different targets does not matter (`content?_declareAll_perm`).
-/

namespace Testbook

open Testbook.Text

/-- What a declaration can be about. -/
inductive Target where
  | testFields | customFields | requirementFields | requirementCustomFields | ignoredMarkers
  | requiredFields | scriptFormat
  | default (field : Text)
  | adjustment (field : Text)
  | requirementDefault (field : Text)
  | requirementTransform (field : Text)
  deriving DecidableEq

/-- What a declaration can say. -/
inductive Content where
  | names (names : List Text)
  | text (text : Text)
  | source (source : Default)
  | adjustment (adjustment : Adjustment)
  | transform (transform : Transform)

/-- What a declaration is about. -/
def Declaration.target : Declaration → Target
  | .testFields _ => .testFields
  | .customFields _ => .customFields
  | .requirementFields _ => .requirementFields
  | .requirementCustomFields _ => .requirementCustomFields
  | .ignoredMarkers _ => .ignoredMarkers
  | .requiredFields _ => .requiredFields
  | .scriptFormat _ => .scriptFormat
  | .default field _ => .default (lower field)
  | .adjustment field _ => .adjustment (lower field)
  | .requirementDefault field _ => .requirementDefault (lower field)
  | .requirementTransform field _ => .requirementTransform (lower field)

/-- What a declaration says. -/
def Declaration.content : Declaration → Content
  | .testFields names => .names (names.map lower)
  | .customFields names => .names (names.map lower)
  | .requirementFields names => .names (names.map lower)
  | .requirementCustomFields names => .names (names.map lower)
  | .ignoredMarkers names => .names names
  | .requiredFields names => .names (names.map lower)
  | .scriptFormat format => .text format
  | .default _ source => .source source
  | .adjustment _ change => .adjustment change
  | .requirementDefault _ value => .text value
  | .requirementTransform _ transform => .transform transform

namespace Registry

/-- What a registry says about a target. -/
def content? (registry : Registry) : Target → Option Content
  | .testFields => registry.testFields.map .names
  | .customFields => registry.customFields.map .names
  | .requirementFields => registry.requirementFields.map .names
  | .requirementCustomFields => registry.requirementCustomFields.map .names
  | .ignoredMarkers => registry.ignoredMarkers.map .names
  | .requiredFields => registry.requiredFields.map .names
  | .scriptFormat => registry.scriptFormat.map .text
  | .default field => (registry.defaults.get? field).map .source
  | .adjustment field => (registry.adjustments.get? field).map .adjustment
  | .requirementDefault field => (registry.requirementDefaults.get? field).map .text
  | .requirementTransform field => (registry.requirementTransforms.get? field).map .transform

/-- A declaration changes what is said about its target only. -/
theorem content?_declare (registry : Registry) (d : Declaration) (target : Target) :
    (registry.declare d).content? target
      = if d.target = target then some d.content else registry.content? target := by
  cases d <;> cases target <;>
    simp [declare, content?, Declaration.target, Declaration.content, Table.get?_insert,
      apply_ite (Option.map _)]

theorem content?_declareAll_congr (ds : List Declaration) {registry registry' : Registry}
    (hr : ∀ target, registry.content? target = registry'.content? target) (target : Target) :
    (registry.declareAll ds).content? target = (registry'.declareAll ds).content? target := by
  induction ds generalizing registry registry' with
  | nil => exact hr target
  | cons d ds ih =>
    refine ih fun target => ?_
    rw [content?_declare, content?_declare, hr]

/-- Declarations about different targets may be made in any order. -/
theorem content?_declareAll_perm {ds ds' : List Declaration} (h : ds.Perm ds')
    (hn : (ds.map Declaration.target).Nodup) {registry registry' : Registry}
    (hr : ∀ target, registry.content? target = registry'.content? target) (target : Target) :
    (registry.declareAll ds).content? target = (registry'.declareAll ds').content? target := by
  induction h generalizing registry registry' with
  | nil => exact hr target
  | cons d _ ih =>
    refine ih (List.nodup_cons.1 hn).2 fun target => ?_
    rw [content?_declare, content?_declare, hr]
  | swap d d' ds =>
    have hne : d'.target ≠ d.target := by
      simp only [List.map_cons, List.nodup_cons, List.mem_cons, not_or] at hn
      exact hn.1.1
    refine content?_declareAll_congr ds (fun target => ?_) target
    rw [content?_declare, content?_declare, content?_declare, content?_declare, hr]
    by_cases hd : d.target = target
    · rw [if_pos hd, if_pos hd, if_neg fun hd' => hne (hd'.trans hd.symm)]
    · rw [if_neg hd, if_neg hd]
  | trans hab _ ih ih' =>
    exact (ih hn hr).trans (ih' ((hab.map _).nodup_iff.1 hn) fun _ => rfl)

end Registry

end Testbook
