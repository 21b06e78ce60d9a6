import Mathlib.Data.List.Basic
import Mathlib.Data.List.Nodup

/-!
# Fresh names

Every place that hands out names checks them one by one against those that are taken and takes them
in turn. What comes out is a list of names that all differ and of which none was taken at the start.
-/

namespace DocViews

/-- Elements that are all different and none of which is taken. -/
structure Fresh (taken ns : List α) : Prop where
  nodup : ns.Nodup
  new : ∀ n ∈ ns, n ∉ taken

section Fresh
variable {taken taken' ns : List α} {n : α}

theorem fresh_nil : Fresh taken [] := ⟨.nil, by simp⟩

theorem fresh_of_nil : Fresh [] ns ↔ ns.Nodup :=
  ⟨fun h => h.nodup, fun h => ⟨h, fun _ _ => List.not_mem_nil⟩⟩

theorem fresh_singleton : Fresh taken [n] ↔ n ∉ taken :=
  ⟨fun h => h.new n List.mem_cons_self, fun h => ⟨List.nodup_singleton n, by simpa using h⟩⟩

/-- It only matters which of the elements are taken. -/
theorem Fresh.congr (h : ∀ n ∈ ns, n ∈ taken ↔ n ∈ taken') : Fresh taken ns ↔ Fresh taken' ns := by
  constructor
  · rintro ⟨hnodup, hnew⟩
    exact ⟨hnodup, fun n hn hmem => hnew n hn ((h n hn).2 hmem)⟩
  · rintro ⟨hnodup, hnew⟩
    exact ⟨hnodup, fun n hn hmem => hnew n hn ((h n hn).1 hmem)⟩

/-- The first is new, and the others are when the first is taken as well. -/
theorem fresh_cons : Fresh taken (n :: ns) ↔ n ∉ taken ∧ Fresh (n :: taken) ns := by
  constructor
  · rintro ⟨hnodup, hnew⟩
    obtain ⟨hn, hns⟩ := List.nodup_cons.1 hnodup
    refine ⟨hnew n List.mem_cons_self, hns, fun m hm hmem => ?_⟩
    rcases List.mem_cons.1 hmem with rfl | hmem
    · exact hn hm
    · exact hnew m (List.mem_cons_of_mem _ hm) hmem
  · rintro ⟨hn, hns, hnew⟩
    refine ⟨List.nodup_cons.2 ⟨fun hmem => hnew n hmem List.mem_cons_self, hns⟩, fun m hm => ?_⟩
    rcases List.mem_cons.1 hm with rfl | hm
    · exact hn
    · exact fun hmem => hnew m hm (List.mem_cons_of_mem _ hmem)

theorem fresh_cons_concat : Fresh taken (n :: ns) ↔ n ∉ taken ∧ Fresh (taken ++ [n]) ns := by
  rw [fresh_cons, Fresh.congr fun m _ => ?_]
  rw [List.mem_cons, List.mem_append, List.mem_singleton, or_comm]

/-- Later elements are new when the earlier ones are taken as well. -/
theorem fresh_append {ms : List α} :
    Fresh taken (ms ++ ns) ↔ Fresh taken ms ∧ Fresh (taken ++ ms) ns := by
  induction ms generalizing taken with
  | nil => simp [fresh_nil]
  | cons m ms ih =>
    rw [List.cons_append, fresh_cons_concat, ih, fresh_cons_concat, and_assoc, List.append_assoc]
    rfl

/-- It does not matter either in which order they come. -/
theorem fresh_perm {ms : List α} (h : ns.Perm ms) : Fresh taken ns ↔ Fresh taken ms := by
  constructor
  · rintro ⟨hnodup, hnew⟩
    exact ⟨h.nodup_iff.1 hnodup, fun n hn => hnew n (h.mem_iff.2 hn)⟩
  · rintro ⟨hnodup, hnew⟩
    exact ⟨h.nodup_iff.2 hnodup, fun n hn => hnew n (h.mem_iff.1 hn)⟩

theorem Fresh.nodup_append (h : Fresh taken ns) (htaken : taken.Nodup) : (taken ++ ns).Nodup :=
  List.nodup_append.2 ⟨htaken, h.nodup, fun _ ha b hb hab => h.new b hb (hab ▸ ha)⟩

/-- Elements that are known to differ only have to be new. -/
theorem fresh_iff_of_nodup (h : ns.Nodup) : Fresh taken ns ↔ ∀ n ∈ ns, n ∉ taken :=
  ⟨fun hfresh => hfresh.new, fun hnew => ⟨h, hnew⟩⟩

theorem fresh_map_iff {f : β → α} {l : List β} (h : (l.map f).Nodup) :
    Fresh taken (l.map f) ↔ ∀ b ∈ l, f b ∉ taken := by
  rw [fresh_iff_of_nodup h, List.forall_mem_map]

/-- Different elements have different images under an injective function. -/
theorem fresh_map_of_injective {f : α → β} (hf : Function.Injective f) :
    Fresh (taken.map f) (ns.map f) ↔ Fresh taken ns := by
  have hmem : ∀ n, f n ∈ taken.map f ↔ n ∈ taken := fun n => List.mem_map_of_injective hf
  constructor
  · rintro ⟨hnodup, hnew⟩
    exact ⟨hnodup.of_map f, fun n hn => (hmem n).not.1 (hnew _ (List.mem_map_of_mem hn))⟩
  · rintro ⟨hnodup, hnew⟩
    exact ⟨hnodup.map hf, List.forall_mem_map.2 fun n hn => (hmem n).not.2 (hnew n hn)⟩

end Fresh

end DocViews
