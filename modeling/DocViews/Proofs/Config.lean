import DocViews.Config
import Mathlib.Data.List.Basic
import Mathlib.Data.List.Induction

/-!
# Changes of configurations

Configurations begin with a preset and are changed one setting at a time. Whatever the changes
are, all that is left of them is the last value of each setting that is replaced and the hooks that
are added, in their order. A configuration keeps what it is when others are derived from it.
-/

namespace DocViews.Config

/-- What configurations begin with. -/
inductive Preset where
  | xml
  | xmlWith (namespaces : NamespacePolicy)
  | json

def Preset.config : Preset → Config
  | .xml => Config.xml
  | .xmlWith namespaces => Config.xmlWith namespaces
  | .json => Config.json

inductive Setting where
  | types
  | metadataView
  | synonym
  | errorCodes
  | onCreation
  | onDrop
  deriving DecidableEq

/-- Whether a new value takes the place of the one before it. Hooks are added instead. -/
def Setting.replaces : Setting → Bool
  | .onCreation | .onDrop => false
  | _ => true

inductive Change where
  | types (types : TypeNames)
  | metadataView (metadataView : Bool)
  | synonym (synonym : Bool)
  | errorCodes (errorCodes : ErrorCodes)
  | onCreation (hook : Hook)
  | onDrop (hook : Hook)

namespace Change

def setting : Change → Setting
  | .types _ => .types
  | .metadataView _ => .metadataView
  | .synonym _ => .synonym
  | .errorCodes _ => .errorCodes
  | .onCreation _ => .onCreation
  | .onDrop _ => .onDrop

def types? : Change → Option TypeNames
  | .types names => some names
  | _ => none

def metadataView? : Change → Option Bool
  | .metadataView wanted => some wanted
  | _ => none

def synonym? : Change → Option Bool
  | .synonym wanted => some wanted
  | _ => none

def errorCodes? : Change → Option ErrorCodes
  | .errorCodes codes => some codes
  | _ => none

def onCreation? : Change → Option Hook
  | .onCreation hook => some hook
  | _ => none

def onDrop? : Change → Option Hook
  | .onDrop hook => some hook
  | _ => none

end Change

def change (c : Config) : Change → Config
  | .types types => c.withTypes types
  | .metadataView metadataView => c.withMetadataView metadataView
  | .synonym synonym => c.withSynonym synonym
  | .errorCodes errorCodes => c.withErrorCodes errorCodes
  | .onCreation hook => c.withOnCreation hook
  | .onDrop hook => c.withOnDrop hook

/-- Makes changes one after another. -/
def changeAll (c : Config) (changes : List Change) : Config := changes.foldl change c

theorem changeAll_concat (c : Config) (changes : List Change) (a : Change) :
    c.changeAll (changes ++ [a]) = (c.changeAll changes).change a := by
  rw [changeAll, List.foldl_append]
  rfl

/-! ## Two changes -/

theorem change_comm (c : Config) {a b : Change} (h : a.setting ≠ b.setting) :
    (c.change a).change b = (c.change b).change a := by
  cases a <;> cases b <;> first | rfl | exact absurd rfl h

theorem change_override (c : Config) {a b : Change} (h : a.setting = b.setting)
    (hreplaces : a.setting.replaces) : (c.change a).change b = c.change b := by
  cases a with
  | onCreation => cases hreplaces
  | onDrop => cases hreplaces
  | _ => cases b <;> first | rfl | cases h

/-! ## What is left of changes -/

/-- The last value among changes, for one kind of change. -/
def lastOf (value? : Change → Option α) (changes : List Change) : Option α :=
  (changes.filterMap value?).getLast?

theorem lastOf_concat (value? : Change → Option α) (changes : List Change) (a : Change) :
    lastOf value? (changes ++ [a]) = (value? a).or (lastOf value? changes) := by
  rw [lastOf, List.filterMap_append, List.getLast?_append]
  cases h : value? a <;> simp [h, lastOf]

/-- What changes come down to: at most one value of each setting that is replaced, and hooks. -/
structure Summary where
  types : Option TypeNames
  metadataView : Option Bool
  synonym : Option Bool
  errorCodes : Option ErrorCodes
  onCreation : List Hook
  onDrop : List Hook

namespace Summary

/-- The last values and all hooks. -/
def ofChanges (changes : List Change) : Summary where
  types := lastOf Change.types? changes
  metadataView := lastOf Change.metadataView? changes
  synonym := lastOf Change.synonym? changes
  errorCodes := lastOf Change.errorCodes? changes
  onCreation := changes.filterMap Change.onCreation?
  onDrop := changes.filterMap Change.onDrop?

/-- One change for each value, then the hooks. -/
def changes (s : Summary) : List Change :=
  s.types.toList.map .types ++ s.metadataView.toList.map .metadataView
    ++ s.synonym.toList.map .synonym ++ s.errorCodes.toList.map .errorCodes
    ++ s.onCreation.map .onCreation ++ s.onDrop.map .onDrop

/-- What is left after one more change. -/
def record (s : Summary) : Change → Summary
  | .types names => { s with types := some names }
  | .metadataView wanted => { s with metadataView := some wanted }
  | .synonym wanted => { s with synonym := some wanted }
  | .errorCodes codes => { s with errorCodes := some codes }
  | .onCreation hook => { s with onCreation := s.onCreation ++ [hook] }
  | .onDrop hook => { s with onDrop := s.onDrop ++ [hook] }

/-- Every setting with its value, if there is one; the hooks come behind those that are there. -/
def applyTo (s : Summary) (c : Config) : Config where
  dialect := c.dialect
  types := s.types.getD c.types
  namespaces := c.namespaces
  metadataView := s.metadataView.getD c.metadataView
  synonym := s.synonym.getD c.synonym
  onCreation := c.onCreation ++ s.onCreation
  onDrop := c.onDrop ++ s.onDrop
  errorCodes := s.errorCodes.getD c.errorCodes

theorem ofChanges_concat (changes : List Change) (a : Change) :
    ofChanges (changes ++ [a]) = (ofChanges changes).record a := by
  simp only [ofChanges, lastOf_concat, List.filterMap_append]
  cases a <;> simp [record, Change.types?, Change.metadataView?, Change.synonym?, Change.errorCodes?,
    Change.onCreation?, Change.onDrop?]

theorem record_applyTo (s : Summary) (a : Change) (c : Config) :
    (s.record a).applyTo c = (s.applyTo c).change a := by
  cases a with
  | onCreation hook => simp [record, applyTo, change, withOnCreation]
  | onDrop hook => simp [record, applyTo, change, withOnDrop]
  | _ => rfl

theorem toList_getLast? (o : Option α) : o.toList.getLast? = o := by
  cases o <;> rfl

theorem filterMap_changes (s : Summary) (value? : Change → Option α) :
    s.changes.filterMap value? =
      s.types.toList.filterMap (fun names => value? (.types names))
        ++ s.metadataView.toList.filterMap (fun wanted => value? (.metadataView wanted))
        ++ s.synonym.toList.filterMap (fun wanted => value? (.synonym wanted))
        ++ s.errorCodes.toList.filterMap (fun codes => value? (.errorCodes codes))
        ++ s.onCreation.filterMap (fun hook => value? (.onCreation hook))
        ++ s.onDrop.filterMap (fun hook => value? (.onDrop hook)) := by
  simp only [changes, List.filterMap_append, List.filterMap_map]
  rfl

/-- The values of a summary are those that its changes come down to. -/
theorem ofChanges_changes (s : Summary) : ofChanges s.changes = s := by
  simp only [ofChanges, lastOf, filterMap_changes, Change.types?, Change.metadataView?,
    Change.synonym?, Change.errorCodes?, Change.onCreation?, Change.onDrop?, List.filterMap_none,
    List.filterMap_some, List.nil_append, List.append_nil, toList_getLast?]

end Summary

/-- All that counts of changes is what they come down to. -/
theorem changeAll_eq_applyTo (c : Config) (changes : List Change) :
    c.changeAll changes = (Summary.ofChanges changes).applyTo c := by
  induction changes using List.reverseRecOn with
  | nil => simp [changeAll, Summary.ofChanges, Summary.applyTo, lastOf]
  | append_singleton changes a ih =>
    rw [changeAll_concat, ih, Summary.ofChanges_concat, Summary.record_applyTo]

theorem changeAll_congr (c : Config) {changes others : List Change}
    (h : Summary.ofChanges changes = Summary.ofChanges others) :
    c.changeAll changes = c.changeAll others := by
  rw [changeAll_eq_applyTo, changeAll_eq_applyTo, h]

/-- The same configuration is made by the last values and the hooks alone. -/
theorem changeAll_normal (c : Config) (changes : List Change) :
    c.changeAll changes = c.changeAll (Summary.ofChanges changes).changes :=
  changeAll_congr c (Summary.ofChanges_changes _).symm

theorem Preset.changeAll_onCreation (p : Preset) (changes : List Change) :
    (p.config.changeAll changes).onCreation = changes.filterMap Change.onCreation? := by
  rw [changeAll_eq_applyTo]
  cases p <;> rfl

theorem Preset.changeAll_onDrop (p : Preset) (changes : List Change) :
    (p.config.changeAll changes).onDrop = changes.filterMap Change.onDrop? := by
  rw [changeAll_eq_applyTo]
  cases p <;> rfl

/-! ## Histories

Any configuration that is there may be the origin of others, at any later step. What they change
does not come back to it, as the hooks that it has are its own. -/

/-- How a configuration is made: from a preset, or from a configuration that was made before. -/
inductive Step where
  | begin (preset : Preset)
  | derive (origin : Nat) (change : Change)

def Step.make (configs : List Config) : Step → Option Config
  | .begin preset => some preset.config
  | .derive origin change => configs[origin]?.map (·.change change)

/-- Makes one more configuration; those that are there stay. -/
def Step.run (configs : List Config) (s : Step) : Option (List Config) :=
  (s.make configs).map fun c => configs ++ [c]

/-- All configurations of a history, in the order in which they were made. -/
def runSteps (steps : List Step) : Option (List Config) := steps.foldlM Step.run []

theorem runSteps_append (steps more : List Step) :
    runSteps (steps ++ more) = (runSteps steps).bind fun configs => more.foldlM Step.run configs :=
  List.foldlM_append

/-- The configuration that a step makes goes back to a preset by these changes. -/
inductive Lineage (steps : List Step) : Nat → Preset → List Change → Prop
  | begin {i : Nat} {preset : Preset} : steps[i]? = some (.begin preset) →
      Lineage steps i preset []
  | derive {i origin : Nat} {change : Change} {preset : Preset} {changes : List Change} :
      steps[i]? = some (.derive origin change) → Lineage steps origin preset changes →
      Lineage steps i preset (changes ++ [change])

section Histories
variable {steps : List Step} {configs configs' : List Config} {i : Nat}

theorem Lineage.append {p : Preset} {changes : List Change} (h : Lineage steps i p changes)
    (more : List Step) : Lineage (steps ++ more) i p changes := by
  have hkeep : ∀ {i : Nat} {s : Step}, steps[i]? = some s → (steps ++ more)[i]? = some s := by
    intro i s hs
    rw [List.getElem?_append_left (List.getElem?_eq_some_iff.1 hs).1, hs]
  induction h with
  | begin hstep => exact .begin (hkeep hstep)
  | derive hstep _ ih => exact .derive (hkeep hstep) ih

/-- A configuration goes back to one preset, by one sequence of changes. -/
theorem Lineage.unique {p q : Preset} {changes others : List Change}
    (h : Lineage steps i p changes) (h' : Lineage steps i q others) : q = p ∧ others = changes := by
  induction h generalizing q others with
  | begin hstep =>
    cases h' with
    | begin hstep' =>
      rw [hstep] at hstep'
      cases hstep'
      exact ⟨rfl, rfl⟩
    | derive hstep' _ =>
      rw [hstep] at hstep'
      cases hstep'
  | derive hstep _ ih =>
    cases h' with
    | begin hstep' =>
      rw [hstep] at hstep'
      cases hstep'
    | derive hstep' horigin =>
      rw [hstep] at hstep'
      cases hstep'
      obtain ⟨rfl, rfl⟩ := ih horigin
      exact ⟨rfl, rfl⟩

/-- The configurations of a history are made by its steps, each by the changes of its lineage. -/
structure Made (steps : List Step) (configs : List Config) : Prop where
  length_eq : configs.length = steps.length
  lineage : ∀ {i c}, configs[i]? = some c →
    ∃ p changes, Lineage steps i p changes ∧ c = p.config.changeAll changes

/-- A configuration that is made by one more step goes on with the lineage of its origin. -/
theorem Made.make_lineage {s : Step} {c : Config} (h : Made steps configs)
    (hs : s.make configs = some c) :
    ∃ p changes, Lineage (steps ++ [s]) steps.length p changes ∧
      c = p.config.changeAll changes := by
  have hstep : (steps ++ [s])[steps.length]? = some s := List.getElem?_concat_length
  cases s with
  | begin p =>
    cases hs
    exact ⟨p, [], .begin hstep, rfl⟩
  | derive origin change =>
    obtain ⟨d, hd, rfl⟩ := Option.map_eq_some_iff.1 hs
    obtain ⟨p, changes, hlineage, rfl⟩ := h.lineage hd
    exact ⟨p, changes ++ [change], .derive hstep (hlineage.append _), (changeAll_concat ..).symm⟩

theorem Made.run {s : Step} (h : Made steps configs) (hs : s.run configs = some configs') :
    Made (steps ++ [s]) configs' := by
  obtain ⟨c, hc, rfl⟩ := Option.map_eq_some_iff.1 hs
  refine ⟨by simp [h.length_eq], ?_⟩
  intro i d hd
  by_cases hi : i < configs.length
  · -- What was there before keeps its lineage.
    rw [List.getElem?_append_left hi] at hd
    obtain ⟨p, changes, hlineage, hd⟩ := h.lineage hd
    exact ⟨p, changes, hlineage.append _, hd⟩
  · have hlast : i = configs.length := by
      have hlength := (List.getElem?_eq_some_iff.1 hd).1
      rw [List.length_append, List.length_singleton] at hlength
      omega
    subst hlast
    rw [List.getElem?_concat_length] at hd
    cases hd
    rw [h.length_eq]
    exact h.make_lineage hc

theorem runSteps_made (h : runSteps steps = some configs) : Made steps configs := by
  induction steps using List.reverseRecOn generalizing configs with
  | nil =>
    cases h
    exact ⟨rfl, by simp⟩
  | append_singleton steps s ih =>
    rw [runSteps_append] at h
    obtain ⟨made, hmade, hs⟩ := Option.bind_eq_some_iff.1 h
    simp only [List.foldlM_cons, List.foldlM_nil, bind_pure] at hs
    exact (ih hmade).run hs

/-- Whatever steps follow, the configurations that are there stay what they are. -/
theorem foldlM_run_prefix (h : steps.foldlM Step.run configs = some configs') :
    configs <+: configs' := by
  induction steps generalizing configs with
  | nil =>
    cases h
    exact List.prefix_rfl
  | cons s steps ih =>
    rw [List.foldlM_cons] at h
    obtain ⟨made, hs, h⟩ := Option.bind_eq_some_iff.1 h
    obtain ⟨c, _, rfl⟩ := Option.map_eq_some_iff.1 hs
    exact (List.prefix_append ..).trans (ih h)

theorem runSteps_getElem?_append {more : List Step} {c : Config} (h : runSteps steps = some configs)
    (hmore : runSteps (steps ++ more) = some configs') (hc : configs[i]? = some c) :
    configs'[i]? = some c := by
  rw [runSteps_append, h] at hmore
  obtain ⟨rest, rfl⟩ := foldlM_run_prefix hmore
  rw [List.getElem?_append_left (List.getElem?_eq_some_iff.1 hc).1, hc]

end Histories

end DocViews.Config
