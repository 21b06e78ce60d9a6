import DocViews.Proofs.Fresh
import DocViews.Sql.Statement
import Mathlib.Data.List.Perm.Basic

/-!
# What statements do to a database

A database holds tables, views and indices, and public synonyms under names of their own. A table
comes with the index of its primary key; other indices are created for it, and all of them go with
it. Databases differ in where the names of indices belong: in some an index must not be called like
a table or a view, in others that does not matter. A statement that creates fails if its name is
there already, one that drops fails if there is no such object; whether one object is built on
another is not looked at.
-/

namespace DocViews.Sql

/-! ## Names -/

/-- Where the names of indices belong. -/
inductive IndexNames where
  /-- Among the names of tables and views. -/
  | shared
  /-- In a set of their own. -/
  | apart
  deriving DecidableEq, Repr

/-- A name in the set that it belongs to. -/
inductive Key where
  | relation (name : String)
  | index (name : String)
  deriving DecidableEq, Repr

/-- The key of an index. -/
def IndexNames.key : IndexNames → String → Key
  | .shared, name => .relation name
  | .apart, name => .index name

/-! ## Databases -/

/-- A table with the index of its primary key and its other indices, or a view. -/
inductive Relation where
  | table (name key : String) (others : List String)
  | view (name : String)
  deriving DecidableEq, Repr

namespace Relation

def name : Relation → String
  | table n _ _ => n
  | view n => n

def object : Relation → DbObject
  | table n _ _ => ⟨n, .table⟩
  | view n => ⟨n, .view⟩

def indices : Relation → List String
  | table _ key is => key :: is
  | view _ => []

/-- All keys that a relation takes up. -/
def keys (x : IndexNames) (r : Relation) : List Key := .relation r.name :: r.indices.map x.key

/-- Gives the table of a name one more index. -/
def addIndex (index target : String) : Relation → Relation
  | table n key is => if n = target then table n key (is ++ [index]) else table n key is
  | view n => view n

@[simp] theorem name_table (n key : String) (is : List String) : (table n key is).name = n := rfl
@[simp] theorem name_view (n : String) : (view n).name = n := rfl
@[simp] theorem object_name (r : Relation) : r.object.name = r.name := by cases r <;> rfl
@[simp] theorem object_table (n key : String) (is : List String) :
    (table n key is).object = ⟨n, .table⟩ := rfl
@[simp] theorem object_view (n : String) : (view n).object = ⟨n, .view⟩ := rfl
@[simp] theorem indices_table (n key : String) (is : List String) :
    (table n key is).indices = key :: is := rfl
@[simp] theorem indices_view (n : String) : (view n).indices = [] := rfl
@[simp] theorem keys_table (x : IndexNames) (n key : String) (is : List String) :
    (table n key is).keys x = .relation n :: x.key key :: is.map x.key := rfl
@[simp] theorem keys_view (x : IndexNames) (n : String) : (view n).keys x = [.relation n] := rfl

theorem addIndex_of_ne {index target : String} {r : Relation} (h : r.name ≠ target) :
    r.addIndex index target = r := by
  cases r with
  | table n key is => exact if_neg h
  | view n => rfl

end Relation

/-- The relations of a database in the order in which they were created, and its synonyms. -/
structure Database where
  relations : List Relation
  synonyms : List String
  deriving DecidableEq, Repr

namespace Database

/-- The names of tables and views. -/
def names (db : Database) : List String := db.relations.map (·.name)

/-- The names of the indices of all tables. -/
def indices (db : Database) : List String := db.relations.flatMap (·.indices)

/-- All keys that are taken up. -/
def keys (x : IndexNames) (db : Database) : List Key := db.relations.flatMap (·.keys x)

def create (x : IndexNames) (db : Database) (r : Relation) : Option Database :=
  if (r.keys x).Nodup ∧ ∀ k ∈ r.keys x, k ∉ db.keys x then
    some { db with relations := db.relations ++ [r] }
  else none

/-- What a statement makes of a database, unless it fails. Rows are not looked at, and a statement
    given as text cannot be followed. -/
def execute (x : IndexNames) (db : Database) : Statement → Option Database
  | .createTable name _ _ key => db.create x (.table name key [])
  | .createView name _ => db.create x (.view name)
  | .createIndex name table _ =>
    if x.key name ∈ db.keys x ∨ ⟨table, .table⟩ ∉ db.relations.map (·.object) then none
    else some { db with relations := db.relations.map (·.addIndex name table) }
  | .createSynonym name =>
    if name ∈ db.synonyms ∨ name ∉ db.names then none
    else some { db with synonyms := db.synonyms ++ [name] }
  | .drop object =>
    if object ∈ db.relations.map (·.object) then
      some { db with relations := db.relations.filter (·.name ≠ object.name) }
    else none
  | .dropSynonym name =>
    if name ∈ db.synonyms then some { db with synonyms := db.synonyms.filter (· ≠ name) } else none
  | .insert table .. => if ⟨table, .table⟩ ∈ db.relations.map (·.object) then some db else none
  | .truncate table => if ⟨table, .table⟩ ∈ db.relations.map (·.object) then some db else none
  | .custom _ => none

/-- Runs statements one after another, as long as none fails. -/
def run (x : IndexNames) (db : Database) : List Statement → Option Database
  | [] => some db
  | s :: ss => (db.execute x s).bind fun db' => db'.run x ss

section Run
variable {x : IndexNames} {db db' : Database} {s : Statement} {ss ts : List Statement}

theorem run_nil : db.run x [] = some db := rfl

theorem run_cons_eq_some :
    db.run x (s :: ss) = some db' ↔ ∃ db₁, db.execute x s = some db₁ ∧ db₁.run x ss = some db' :=
  Option.bind_eq_some_iff

theorem run_append_eq_some :
    db.run x (ss ++ ts) = some db' ↔ ∃ db₁, db.run x ss = some db₁ ∧ db₁.run x ts = some db' := by
  induction ss generalizing db with
  | nil => simp [run_nil]
  | cons s ss ih =>
    rw [List.cons_append, run_cons_eq_some]
    constructor
    · rintro ⟨db₁, hs, h⟩
      obtain ⟨db₂, hss, hts⟩ := ih.1 h
      exact ⟨db₂, run_cons_eq_some.2 ⟨db₁, hs, hss⟩, hts⟩
    · rintro ⟨db₂, h, hts⟩
      obtain ⟨db₁, hs, hss⟩ := run_cons_eq_some.1 h
      exact ⟨db₁, hs, ih.2 ⟨db₂, hss, hts⟩⟩

end Run

/-! ## Keys -/

section Keys
variable {x : IndexNames} {relations added : List Relation} {synonyms : List String} {db : Database}

theorem keys_append :
    keys x ⟨relations ++ added, synonyms⟩ =
      keys x ⟨relations, synonyms⟩ ++ added.flatMap (·.keys x) :=
  List.flatMap_append

/-- The keys of relations are their own names and those of their indices. -/
theorem flatMap_keys_perm (x : IndexNames) (relations : List Relation) :
    (relations.flatMap (·.keys x)).Perm ((relations.map (·.name)).map .relation
      ++ (relations.flatMap (·.indices)).map x.key) := by
  rw [List.map_map, List.map_flatMap]
  exact (List.map_append_flatMap_perm relations _ _).symm

theorem relation_mem_keys {name : String} (h : name ∈ db.names) : .relation name ∈ db.keys x :=
  (flatMap_keys_perm x db.relations).mem_iff.2 (List.mem_append_left _ (List.mem_map_of_mem h))

/-- Relations with free keys have free names. -/
theorem fresh_names (h : Fresh (db.keys x) (added.flatMap (·.keys x))) :
    Fresh db.names (added.map (·.name)) := by
  have hperm := flatMap_keys_perm x added
  refine ⟨?_, fun n hn hmem => ?_⟩
  · exact (List.nodup_append.1 (hperm.nodup_iff.1 h.nodup)).1.of_map _
  · refine h.new (.relation n) ?_ (relation_mem_keys hmem)
    exact hperm.mem_iff.2 (List.mem_append_left _ (List.mem_map_of_mem hn))

theorem fresh_keys_iff :
    Fresh (db.keys x) (added.flatMap (·.keys x)) ↔
      Fresh (db.names.map .relation ++ db.indices.map x.key)
        ((added.map (·.name)).map .relation ++ (added.flatMap (·.indices)).map x.key) := by
  rw [fresh_perm (flatMap_keys_perm x added)]
  exact Fresh.congr fun _ _ => (flatMap_keys_perm x db.relations).mem_iff

/-- Where indices have a set of their own, the two kinds of names do not matter to each other. -/
theorem fresh_keys_apart :
    Fresh (db.keys .apart) (added.flatMap (·.keys .apart)) ↔
      Fresh db.names (added.map (·.name)) ∧ Fresh db.indices (added.flatMap (·.indices)) := by
  have hrelation : Function.Injective Key.relation := fun _ _ h => Key.relation.inj h
  have hindex : Function.Injective (IndexNames.key .apart) := fun _ _ h => Key.index.inj h
  have hnames : Fresh (db.names.map .relation ++ db.indices.map (IndexNames.key .apart))
      ((added.map (·.name)).map .relation) ↔ Fresh db.names (added.map (·.name)) := by
    rw [← fresh_map_of_injective hrelation]
    exact Fresh.congr (List.forall_mem_map.2 fun n _ => by simp [IndexNames.key])
  have hindices : Fresh (db.names.map .relation ++ db.indices.map (IndexNames.key .apart)
      ++ (added.map (·.name)).map .relation)
      ((added.flatMap (·.indices)).map (IndexNames.key .apart)) ↔
        Fresh db.indices (added.flatMap (·.indices)) := by
    rw [← fresh_map_of_injective hindex]
    exact Fresh.congr (List.forall_mem_map.2 fun n _ => by simp [IndexNames.key])
  rw [fresh_keys_iff, fresh_append, hnames, hindices]

/-- Where they have not, all names matter to each other. -/
theorem fresh_keys_shared :
    Fresh (db.keys .shared) (added.flatMap (·.keys .shared)) ↔
      Fresh (db.names ++ db.indices) (added.map (·.name) ++ added.flatMap (·.indices)) := by
  have hinjective : Function.Injective (IndexNames.key .shared) := fun _ _ h => Key.relation.inj h
  have hkey : Key.relation = IndexNames.key .shared := rfl
  rw [fresh_keys_iff, hkey, ← List.map_append, ← List.map_append,
    fresh_map_of_injective hinjective]

end Keys

/-! ## Statements of one kind -/

section Creating
variable {x : IndexNames} {db db' : Database}

theorem create_eq_some {r : Relation} :
    db.create x r = some db' ↔
      Fresh (db.keys x) (r.keys x) ∧ db' = { db with relations := db.relations ++ [r] } := by
  unfold create
  split
  case isTrue hfresh => simp [Fresh.mk hfresh.1 hfresh.2, eq_comm]
  case isFalse hnot =>
    have hfresh : ¬Fresh (db.keys x) (r.keys x) := fun h => hnot ⟨h.nodup, h.new⟩
    simp [hfresh]

/-- Views can be created if their names are new, and follow the relations that are there. -/
theorem run_createView {vs : List (String × Query)} :
    db.run x (vs.map fun (name, query) => .createView name query) = some db' ↔
      Fresh (db.keys x) (vs.map fun v => .relation v.1) ∧
        db' = { db with relations := db.relations ++ vs.map fun v => .view v.1 } := by
  induction vs generalizing db with
  | nil => simp [run_nil, fresh_nil, eq_comm]
  | cons v vs ih =>
    simp only [List.map_cons, run_cons_eq_some, execute, create_eq_some, Relation.keys_view,
      fresh_singleton]
    -- The first view is there when the others are created, so its name counts as taken for them.
    constructor
    · rintro ⟨_, ⟨hv, rfl⟩, h⟩
      obtain ⟨hfresh, rfl⟩ := ih.1 h
      refine ⟨fresh_cons_concat.2 ⟨hv, by simpa [keys_append] using hfresh⟩, by simp⟩
    · rintro ⟨hfresh, rfl⟩
      obtain ⟨hv, hfresh⟩ := fresh_cons_concat.1 hfresh
      exact ⟨_, ⟨hv, rfl⟩, ih.2 ⟨by simpa [keys_append] using hfresh, by simp⟩⟩

section Table
variable {relations : List Relation} {synonyms : List String} {table key : String}
  {others : List String} (htable : table ∉ relations.map (·.name))
include htable

theorem execute_createIndex {name column : String} :
    execute x ⟨relations ++ [.table table key others], synonyms⟩ (.createIndex name table column) =
        some db' ↔
      x.key name ∉ keys x ⟨relations ++ [.table table key others], synonyms⟩ ∧
        db' = ⟨relations ++ [.table table key (others ++ [name])], synonyms⟩ := by
  -- No other relation has the name of the table, so only the last one changes.
  have hothers : relations.map (·.addIndex name table) = relations := by
    calc relations.map (·.addIndex name table)
        = relations.map id := List.map_congr_left fun r hr =>
            Relation.addIndex_of_ne fun heq => htable (List.mem_map.2 ⟨r, hr, heq⟩)
      _ = relations := List.map_id _
  have hupdate : (relations ++ [Relation.table table key others]).map (·.addIndex name table) =
      relations ++ [.table table key (others ++ [name])] := by
    rw [List.map_append, hothers, List.map_singleton, Relation.addIndex, if_pos rfl]
  have htarget : ⟨table, .table⟩ ∈
      (relations ++ [Relation.table table key others]).map Relation.object := by simp
  simp only [execute, hupdate, htarget, not_true_eq_false, or_false]
  split
  case isTrue htaken => simp [htaken]
  case isFalse hnew => simp [hnew, eq_comm]

/-- Indices can be created on the last table if their names are new. -/
theorem run_createIndex {is : List (String × String)} :
    run x ⟨relations ++ [.table table key others], synonyms⟩
        (is.map fun (name, column) => .createIndex name table column) = some db' ↔
      Fresh (keys x ⟨relations ++ [.table table key others], synonyms⟩)
          (is.map fun i => x.key i.1) ∧
        db' = ⟨relations ++ [.table table key (others ++ is.map (·.1))], synonyms⟩ := by
  induction is generalizing others with
  | nil => simp [run_nil, fresh_nil, eq_comm]
  | cons i is ih =>
    have hkeys : keys x ⟨relations ++ [.table table key (others ++ [i.1])], synonyms⟩ =
        keys x ⟨relations ++ [.table table key others], synonyms⟩ ++ [x.key i.1] := by
      simp [keys_append]
    simp only [List.map_cons, run_cons_eq_some, execute_createIndex htable, fresh_cons_concat,
      ← hkeys]
    constructor
    · rintro ⟨_, ⟨hi, rfl⟩, h⟩
      obtain ⟨hfresh, rfl⟩ := ih.1 h
      exact ⟨⟨hi, hfresh⟩, by simp⟩
    · rintro ⟨⟨hi, hfresh⟩, rfl⟩
      exact ⟨_, ⟨hi, rfl⟩, ih.2 ⟨hfresh, by simp⟩⟩

end Table

/-- Synonyms can be created for relations if the synonyms are new. -/
theorem run_createSynonym {relations : List Relation} {synonyms ns : List String}
    (hns : ∀ n ∈ ns, n ∈ relations.map (·.name)) :
    run x ⟨relations, synonyms⟩ (ns.map .createSynonym) = some db' ↔
      Fresh synonyms ns ∧ db' = ⟨relations, synonyms ++ ns⟩ := by
  induction ns generalizing synonyms with
  | nil => simp [run_nil, fresh_nil, eq_comm]
  | cons n ns ih =>
    have hn : n ∈ (⟨relations, synonyms⟩ : Database).names := hns n List.mem_cons_self
    have hrest : ∀ m ∈ ns, m ∈ relations.map (·.name) :=
      fun m hm => hns m (List.mem_cons_of_mem _ hm)
    have hstep : ∀ db₁, execute x ⟨relations, synonyms⟩ (.createSynonym n) = some db₁ ↔
        n ∉ synonyms ∧ db₁ = ⟨relations, synonyms ++ [n]⟩ := by
      intro db₁
      simp only [execute]
      split <;> simp_all [eq_comm]
    simp only [List.map_cons, run_cons_eq_some, hstep]
    constructor
    · rintro ⟨_, ⟨hnew, rfl⟩, h⟩
      obtain ⟨hfresh, rfl⟩ := (ih hrest).1 h
      exact ⟨fresh_cons_concat.2 ⟨hnew, hfresh⟩, by simp⟩
    · rintro ⟨hfresh, rfl⟩
      obtain ⟨hnew, hfresh⟩ := fresh_cons_concat.1 hfresh
      exact ⟨_, ⟨hnew, rfl⟩, (ih hrest).2 ⟨hfresh, by simp⟩⟩

end Creating

section Dropping
variable {x : IndexNames} {relations added : List Relation} {synonyms : List String}

/-- Where the key of an element is its own, only that element goes by it. -/
theorem filter_ne_append_cons (key : α → String) {y : α} {l m : List α}
    (hl : key y ∉ l.map key) (hm : key y ∉ m.map key) :
    (l ++ y :: m).filter (key · ≠ key y) = l ++ m := by
  have hkeep : ∀ {k : List α}, key y ∉ k.map key → k.filter (key · ≠ key y) = k := by
    intro k hk
    refine List.filter_eq_self.2 fun z hz => ?_
    simpa using fun heq => hk (List.mem_map.2 ⟨z, hz, heq⟩)
  rw [List.filter_append, hkeep hl, List.filter_cons_of_neg (by simp), hkeep hm]

/-- What was added under new names can be dropped in order, and the rest stays. -/
theorem run_drop (h : Fresh (relations.map (·.name)) (added.map (·.name))) :
    run x ⟨relations ++ added, synonyms⟩ (added.map (.drop ·.object)) =
      some ⟨relations, synonyms⟩ := by
  induction added with
  | nil => simp [run_nil]
  | cons r added ih =>
    obtain ⟨hnodup, hnew⟩ := h
    obtain ⟨hr, hadded⟩ := List.nodup_cons.1 hnodup
    -- The name of `r` stands neither before nor behind it: dropping it takes away `r` alone.
    have hobject : r.object ∈ (relations ++ r :: added).map (·.object) := by simp
    have hfilter := filter_ne_append_cons Relation.name (hnew r.name (by simp)) hr
    have hstep : execute x ⟨relations ++ r :: added, synonyms⟩ (.drop r.object) =
        some ⟨relations ++ added, synonyms⟩ := by
      simp only [execute, if_pos hobject, Relation.object_name, hfilter]
    rw [List.map_cons, run, hstep, Option.bind_some]
    exact ih ⟨hadded, fun n hn => hnew n (List.mem_cons_of_mem _ hn)⟩

theorem run_dropSynonym {ns : List String} (h : Fresh synonyms ns) :
    run x ⟨relations, synonyms ++ ns⟩ (ns.map .dropSynonym) = some ⟨relations, synonyms⟩ := by
  induction ns with
  | nil => simp [run_nil]
  | cons n ns ih =>
    obtain ⟨hnodup, hnew⟩ := h
    obtain ⟨hn, hns⟩ := List.nodup_cons.1 hnodup
    have hmem : n ∈ synonyms ++ n :: ns := by simp
    have hfilter := filter_ne_append_cons id (by simpa using hnew n List.mem_cons_self)
      (by simpa using hn)
    have hstep : execute x ⟨relations, synonyms ++ n :: ns⟩ (.dropSynonym n) =
        some ⟨relations, synonyms ++ ns⟩ := by
      simp only [execute, if_pos hmem]
      exact congrArg _ (congrArg _ hfilter)
    rw [List.map_cons, run, hstep, Option.bind_some]
    exact ih ⟨hns, fun m hm => hnew m (List.mem_cons_of_mem _ hm)⟩

end Dropping

end Database

end DocViews.Sql
