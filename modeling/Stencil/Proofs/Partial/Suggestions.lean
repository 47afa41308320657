import Stencil.Proofs.Partial.Registry
import Stencil.Proofs.Text.Distance

/-!
# Suggestions for an unknown partial

The names close to a target have one ranking, by distance and then by name. The suggestions are its first three, in
whichever order distinct names come (`similar_congr`); so an error of a registry depends on the set of its
names only (`suggestions_canonical`).
-/

namespace Stencil.Text

/-- Closer to the target, or as close and earlier by name. -/
def Precedes (target one other : String) : Prop :=
  distance target one < distance target other ∨ distance target one = distance target other ∧ one < other

instance (target one other : String) : Decidable (Precedes target one other) := inferInstanceAs (Decidable (_ ∨ _))

theorem Precedes.irrefl (target name : String) : ¬Precedes target name name := by
  rintro (closer | ⟨-, earlier⟩)
  · exact Nat.lt_irrefl _ closer
  · exact String.lt_irrefl name earlier

theorem Precedes.asymm {target one other : String} (first : Precedes target one other) :
    ¬Precedes target other one := by
  rintro (closer | ⟨same, earlier⟩)
  · obtain farther | ⟨same, -⟩ := first <;> omega
  · obtain farther | ⟨-, before⟩ := first
    · omega
    · exact String.lt_asymm before earlier

/-- The names within half of the target's bytes, the closest first, and of those as close the first by name. -/
structure Ranking (target : String) (names ranked : List String) : Prop where
  members : ∀ name, name ∈ ranked ↔ name ∈ names ∧ distance target name ≤ target.utf8ByteSize / 2
  ordered : ranked.Pairwise (Precedes target)

section Ranking

variable {target : String} {names others ranked rankedToo : List String}

theorem Ranking.nodup (ranking : Ranking target names ranked) : ranked.Nodup :=
  ranking.ordered.imp fun first => by
    rintro rfl
    exact Precedes.irrefl target _ first

theorem Ranking.unique (ranking : Ranking target names ranked) (rankingToo : Ranking target others rankedToo)
    (same : ∀ name, name ∈ names ↔ name ∈ others) : ranked = rankedToo := by
  have perm : ranked.Perm rankedToo := by
    rw [List.perm_ext_iff_of_nodup ranking.nodup rankingToo.nodup]
    intro name
    rw [ranking.members, rankingToo.members, same]
  exact perm.eq_of_pairwise (fun _ _ _ _ first second => absurd second first.asymm) ranking.ordered rankingToo.ordered

theorem ranksBefore_iff {a b : String × Nat} : ranksBefore a b = true ↔ a.2 < b.2 ∨ a.2 = b.2 ∧ a.1 ≤ b.1 := by
  simp [ranksBefore]

theorem mergeSort_ranked (scored : List (String × Nat)) :
    (scored.mergeSort ranksBefore).Pairwise fun a b => a.2 < b.2 ∨ a.2 = b.2 ∧ a.1 ≤ b.1 := by
  refine (List.pairwise_mergeSort ?_ ?_ scored).imp ranksBefore_iff.1
  · intro a b c first second
    rw [ranksBefore_iff] at first second ⊢
    obtain closer | ⟨same, before⟩ := first
    · exact .inl (by omega)
    · obtain closer | ⟨equal, beforeToo⟩ := second
      · exact .inl (by omega)
      · exact .inr ⟨same.trans equal, String.le_trans before beforeToo⟩
  · intro a b
    rw [Bool.or_eq_true, ranksBefore_iff, ranksBefore_iff]
    obtain closer | same | farther := Nat.lt_trichotomy a.2 b.2
    · exact .inl (.inl closer)
    · exact (String.le_total a.1 b.1).imp (.inr ⟨same, ·⟩) (.inr ⟨same.symm, ·⟩)
    · exact .inr (.inl farther)

/-- The names with their distances, in the order in which they are suggested. -/
def scored (target : String) (names : List String) : List (String × Nat) :=
  (names.map fun name => (name, distance target name)).mergeSort ranksBefore

/-- All names that are close enough, and not the first three only. -/
def closest (target : String) (names : List String) : List String :=
  ((scored target names).filter fun entry => entry.2 ≤ target.utf8ByteSize * 50 / 100).map Prod.fst

theorem similar_eq_take (target : String) (names : List String) :
    similar target names = (closest target names).take 3 :=
  List.map_take

theorem mem_scored {entry : String × Nat} :
    entry ∈ scored target names ↔ entry.1 ∈ names ∧ entry.2 = distance target entry.1 := by
  rw [scored, List.mem_mergeSort, List.mem_map]
  constructor
  · rintro ⟨name, listed, rfl⟩
    exact ⟨listed, rfl⟩
  · rintro ⟨listed, score⟩
    exact ⟨entry.1, listed, Prod.ext rfl score.symm⟩

theorem mem_closest {name : String} :
    name ∈ closest target names ↔ name ∈ names ∧ distance target name ≤ target.utf8ByteSize / 2 := by
  have half : target.utf8ByteSize * 50 / 100 = target.utf8ByteSize / 2 := by omega
  simp only [closest, half, List.mem_map, List.mem_filter, mem_scored, decide_eq_true_eq]
  constructor
  · rintro ⟨entry, ⟨⟨listed, score⟩, close⟩, rfl⟩
    exact ⟨listed, score ▸ close⟩
  · rintro ⟨listed, close⟩
    exact ⟨(name, distance target name), ⟨⟨listed, rfl⟩, close⟩, rfl⟩

theorem scored_apart (target : String) (distinct : names.Nodup) :
    (scored target names).Pairwise fun a b => a.1 ≠ b.1 := by
  have bare : (names.map fun name => (name, distance target name)).map Prod.fst = names := by
    rw [List.map_map]
    exact List.map_id names
  rw [← List.pairwise_map, ← List.Nodup, scored, ((List.mergeSort_perm _ _).map Prod.fst).nodup_iff, bare]
  exact distinct

theorem closest_ranking (target : String) (distinct : names.Nodup) : Ranking target names (closest target names) where
  members _ := mem_closest
  ordered := by
    rw [closest, List.pairwise_map]
    refine (((mergeSort_ranked _).and (scored_apart target distinct)).imp_of_mem ?_).filter _
    rintro a b listed listedToo ⟨closer | ⟨same, before⟩, other⟩
    · rw [(mem_scored.1 listed).2, (mem_scored.1 listedToo).2] at closer
      exact .inl closer
    · rw [(mem_scored.1 listed).2, (mem_scored.1 listedToo).2] at same
      exact .inr ⟨same, Std.lt_of_le_of_ne before other⟩

theorem similar_congr (target : String) (distinct : names.Nodup) (distinctToo : others.Nodup)
    (same : ∀ name, name ∈ names ↔ name ∈ others) : similar target names = similar target others := by
  rw [similar_eq_take, similar_eq_take,
    (closest_ranking target distinct).unique (closest_ranking target distinctToo) same]

end Ranking

end Stencil.Text

namespace Stencil.Partial.Registry

open Text

variable {α : Type}

/--
The suggestions are the first three of the close names, by their least number of edits and then by name, and a list
of distinct names in another order gives the same ones. So the error for an unknown partial is determined by the
registered names: they may be listed in any order, and registered in any order under any spellings.
-/
theorem suggestions_canonical {names : List String} (distinct : names.Nodup) :
    (∀ target : String,
      (∀ name : String, IsLeast { count | Edits count target.toList name.toList } (distance target name)) ∧
      (∃ ranked, Ranking target names ranked ∧ similar target names = ranked.take 3 ∧
        ∀ other, Ranking target names other → other = ranked) ∧
      ∀ others : List String, others.Perm names → similar target others = similar target names) ∧
    ∀ registrations : List (String × α),
      (∀ name, name ∈ names ↔ ∃ registration ∈ registrations, normalize registration.1 = name) →
      ∀ (missing : String) (error : RenderError), (ofList registrations).resolve missing = .error error ↔
        normalize missing ∉ names ∧ error = .partialNotFound missing (similar (normalize missing) names) := by
  refine ⟨fun target => ⟨isLeast_distance target, ?_, fun others perm => ?_⟩,
    fun registrations same missing error => ?_⟩
  · have ranking := closest_ranking target distinct
    exact ⟨_, ranking, similar_eq_take target names, fun other too => too.unique ranking fun _ => Iff.rfl⟩
  · exact similar_congr target (perm.nodup_iff.2 distinct) distinct fun _ => perm.mem_iff
  · have listed : ∀ name, name ∈ (ofList registrations).names ↔ name ∈ names := fun name => by
      rw [mem_names_ofList, same]
    rw [resolve_eq_error_iff, listed,
      similar_congr (normalize missing) (nodup_names_ofList registrations) distinct listed]

/-- Two names are one edit away and two are two edits away; the last of these four is left out. -/
theorem suggestions_canonical_posh :
    Ranking "posh" ["cost", "past", "post", "push", "comments"] ["post", "push", "cost", "past"] ∧
      (ofList [("_past", 1), ("push", 2), ("_cost", 3), ("comments", 4), ("post", 5)]).resolve "_posh" =
        .error (.partialNotFound "_posh" ["post", "push", "cost"]) := by
  have distinct : ["cost", "past", "post", "push", "comments"].Nodup := by decide
  have close : (["cost", "past", "post", "push", "comments"].filter fun name =>
      distance "posh" name ≤ "posh".utf8ByteSize / 2) = ["cost", "past", "post", "push"] := by
    decide +kernel
  have ranking : Ranking "posh" ["cost", "past", "post", "push", "comments"] ["post", "push", "cost", "past"] := by
    refine ⟨fun name => ?_, by decide +kernel⟩
    have perm : ["post", "push", "cost", "past"].Perm ["cost", "past", "post", "push"] := by decide
    rw [perm.mem_iff, ← close, List.mem_filter, decide_eq_true_iff]
  have spelled : ([("_past", 1), ("push", 2), ("_cost", 3), ("comments", 4), ("post", 5)].map fun registration =>
      normalize registration.1) = ["past", "push", "cost", "comments", "post"] := by
    decide +kernel
  have plain : normalize "_posh" = "posh" := by decide +kernel
  obtain ⟨suggested, determined⟩ := suggestions_canonical distinct
  obtain ⟨-, ⟨ranked, -, first, unique⟩, -⟩ := suggested "posh"
  refine ⟨ranking, (determined _ (fun name => ?_) "_posh" _).2 ⟨?_, ?_⟩⟩
  · rw [← List.mem_map, spelled]
    exact List.Perm.mem_iff (by decide)
  · rw [plain]
    decide
  · rw [plain, first, ← unique _ ranking]
    rfl

end Stencil.Partial.Registry
