import DocViews.Proofs.Compile.Provisioning
import DocViews.Proofs.Config

/-!
# Statements of hooks

The statements of hooks come last, behind everything that is generated. Which hooks those are is
settled by the changes that a configuration goes back to, and by nothing else.
-/

namespace DocViews

open Sql (Statement)
open Config (Preset Change Summary Step Lineage runSteps)

/-- The statements that hooks add, hook by hook. -/
def hookStatements (hooks : List Hook) (raw : String) : List Statement :=
  hooks.flatMap fun hook => (hook raw).map .custom

theorem render_hookStatements (hooks : List Hook) (raw : String) :
    (hookStatements hooks raw).map (·.render) = hooks.flatMap fun hook => hook raw :=
  map_render_hooks hooks raw

/-- What comes before the hooks is what is left without them. -/
theorem generated_append_hooks {ss : List Statement} (h : generated ss = ss) (hooks : List Hook)
    (raw : String) :
    ss ++ hookStatements hooks raw =
      generated (ss ++ hookStatements hooks raw) ++ hookStatements hooks raw := by
  rw [generated_append, h, hookStatements, generated_hooks, List.append_nil]

section Bundles
variable {Document : Type} {config : Config} {name : String} {groups : List ViewGroup}
  {namer : Namer} {table : TablePolicy Document} {b : Bundle Document}

theorem compile_creation_hooks (h : compile config name groups namer table = .ok b) :
    b.creation = generated b.creation ++ hookStatements config.onCreation b.rawTable := by
  obtain ⟨indices, rs, listing, _, _, _, rfl⟩ := compile_eq_ok.1 h
  refine generated_append_hooks ?_ config.onCreation _
  rw [generated_append, generated_append, generated_append, generated_map fun _ => rfl,
    generated_map fun _ => rfl, generated_synonyms fun _ => rfl]
  rfl

theorem compile_drops_hooks (h : compile config name groups namer table = .ok b) :
    b.drops = generated b.drops ++ hookStatements config.onDrop b.rawTable := by
  obtain ⟨indices, rs, listing, _, _, _, rfl⟩ := compile_eq_ok.1 h
  refine generated_append_hooks ?_ config.onDrop _
  rw [generated_append, generated_map fun _ => rfl, generated_synonyms fun _ => rfl]

end Bundles

/-- A configuration has the last values and the hooks of some changes to a preset, and is made by
    those alone. Whatever it compiles to ends with the statements of just those hooks, and their
    texts are what the hooks give for the raw table. -/
structure Settled (p : Preset) (changes : List Change) (c : Config) : Prop where
  values : c = (Summary.ofChanges changes).applyTo p.config
  normal : c = p.config.changeAll (Summary.ofChanges changes).changes
  creation_eq : ∀ {Document : Type} {name : String} {groups : List ViewGroup} {namer : Namer}
    {table : TablePolicy Document} {b : Bundle Document},
    compile c name groups namer table = .ok b → b.creation =
      generated b.creation ++ hookStatements (changes.filterMap Change.onCreation?) b.rawTable
  drops_eq : ∀ {Document : Type} {name : String} {groups : List ViewGroup} {namer : Namer}
    {table : TablePolicy Document} {b : Bundle Document},
    compile c name groups namer table = .ok b → b.drops =
      generated b.drops ++ hookStatements (changes.filterMap Change.onDrop?) b.rawTable
  creation_text : ∀ {Document : Type} {name : String} {groups : List ViewGroup} {namer : Namer}
    {table : TablePolicy Document} {b : Bundle Document},
    compile c name groups namer table = .ok b → b.creation.map (·.render) =
      (generated b.creation).map (·.render)
        ++ (changes.filterMap Change.onCreation?).flatMap fun hook => hook b.rawTable
  drops_text : ∀ {Document : Type} {name : String} {groups : List ViewGroup} {namer : Namer}
    {table : TablePolicy Document} {b : Bundle Document},
    compile c name groups namer table = .ok b → b.drops.map (·.render) =
      (generated b.drops).map (·.render)
        ++ (changes.filterMap Change.onDrop?).flatMap fun hook => hook b.rawTable

theorem changeAll_settled (p : Preset) (changes : List Change) :
    Settled p changes (p.config.changeAll changes) where
  values := Config.changeAll_eq_applyTo p.config changes
  normal := Config.changeAll_normal p.config changes
  creation_eq h := by
    rw [← p.changeAll_onCreation]
    exact compile_creation_hooks h
  drops_eq h := by
    rw [← p.changeAll_onDrop]
    exact compile_drops_hooks h
  creation_text h := by
    rw [← p.changeAll_onCreation, ← render_hookStatements, ← List.map_append]
    exact congrArg _ (compile_creation_hooks h)
  drops_text h := by
    rw [← p.changeAll_onDrop, ← render_hookStatements, ← List.map_append]
    exact congrArg _ (compile_drops_hooks h)

/-- Changes of a preset come down to the last value of each setting and the hooks in their order.
    So it makes no difference in which order different settings are changed, and a new value
    overrides the one before it. In a history of configurations each one is settled by the changes
    that it goes back to, whatever else is derived from its origins. -/
theorem configurations_settle :
    (∀ p changes, Settled p changes (p.config.changeAll changes)) ∧
    (∀ (c : Config) (a b : Change), a.setting ≠ b.setting →
      (c.change a).change b = (c.change b).change a) ∧
    (∀ (c : Config) (a b : Change), a.setting = b.setting → a.setting.replaces →
      (c.change a).change b = c.change b) ∧
    ∀ steps configs, runSteps steps = some configs →
      configs.length = steps.length ∧
      ∀ i c, configs[i]? = some c → ∃ p changes, Lineage steps i p changes ∧
        (∀ q others, Lineage steps i q others → q = p ∧ others = changes) ∧
        Settled p changes c ∧
        ∀ more configs', runSteps (steps ++ more) = some configs' → configs'[i]? = some c := by
  refine ⟨changeAll_settled, ?_, ?_, ?_⟩
  · exact fun c a b => Config.change_comm c
  · exact fun c a b => Config.change_override c
  · intro steps configs hrun
    have hmade := Config.runSteps_made hrun
    refine ⟨hmade.length_eq, ?_⟩
    intro i c hc
    obtain ⟨p, changes, hlineage, rfl⟩ := hmade.lineage hc
    refine ⟨p, changes, hlineage, ?_, changeAll_settled p changes, ?_⟩
    · exact fun q others => hlineage.unique
    · exact fun more configs' hmore => Config.runSteps_getElem?_append hrun hmore hc

/-- Two configurations get a hook each, and a third is derived from the first of them. -/
def branchingSteps : List Step :=
  [.begin .json, .derive 0 (.onCreation fun raw => ["ANALYZE " ++ raw]),
    .derive 0 (.onCreation fun raw => ["VACUUM " ++ raw]), .derive 1 (.metadataView false)]

/-- The third has just the hook of the one that it is derived from. Other settings may be changed in
    any order, and only the last value counts. -/
theorem branchingSteps_settle :
    (∃ configs c b, runSteps branchingSteps = some configs ∧ configs[3]? = some c ∧
      compile c "doc" [] (fun _ _ => "DOC") (staticColumns []) = .ok b ∧
      b.creation = generated b.creation ++ [.custom "ANALYZE DOC_RAW"] ∧
      b.creation.map (·.render) = (generated b.creation).map (·.render) ++ ["ANALYZE DOC_RAW"] ∧
      b.drops = generated b.drops) ∧
    (Config.xml.withSynonym true).withMetadataView false =
      (Config.xml.withMetadataView false).withSynonym true ∧
    (Config.xml.withSynonym true).withSynonym false = Config.xml.withSynonym false := by
  obtain ⟨_, hcomm, hoverride, hhistory⟩ := configurations_settle
  refine ⟨?_, ?_, ?_⟩
  · obtain ⟨_, hsettled⟩ := hhistory branchingSteps _ rfl
    obtain ⟨p, changes, _, hunique, hc, _⟩ := hsettled 3 _ rfl
    obtain ⟨rfl, rfl⟩ := hunique .json _ (.derive rfl (.derive rfl (.begin rfl)))
    have hb : compile ((Config.json.withOnCreation fun raw => ["ANALYZE " ++ raw]).withMetadataView
        false) "doc" [] (fun _ _ => "DOC") (staticColumns []) = .ok _ := rfl
    refine ⟨_, _, _, rfl, rfl, hb, hc.creation_eq hb, hc.creation_text hb, ?_⟩
    exact (hc.drops_eq hb).trans (List.append_nil _)
  · exact hcomm Config.xml (.synonym true) (.metadataView false) (by decide)
  · exact hoverride Config.xml (.synonym true) (.synonym false) rfl rfl

end DocViews
