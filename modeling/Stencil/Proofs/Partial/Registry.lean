import Mathlib.Data.Finset.Card
import Stencil.Partial.Registry
import Stencil.Proofs.Entries
import Stencil.Proofs.Partial.Name

/-!
# Names that a registry lists

A registry keeps what was registered last under each normalized name, and normalizes what it is asked for. A
listed name is normalized already. Asking for it gives its own template unless it starts its segment with an
underscore: the registry then looks under the name without it (`listed_names_found`).
-/

namespace Stencil

theorem Entries.exists_get?_of_mem {α : Type} {key : String} {entries : Entries α} (member : key ∈ keys entries) :
    ∃ value, get? key entries = some value := by
  induction entries with
  | nil => simp [keys] at member
  | cons entry rest ih =>
    by_cases same : entry.1 = key
    · exact ⟨entry.2, by simp [get?, same]⟩
    · obtain first | later := List.mem_cons.1 member
      · exact absurd first.symm same
      · obtain ⟨value, found⟩ := ih later
        exact ⟨value, by simpa [get?, same] using found⟩

theorem Text.mem_of_mem_similar {target suggestion : String} {names : List String}
    (member : suggestion ∈ similar target names) : suggestion ∈ names := by
  obtain ⟨scored, ranked, rfl⟩ := List.mem_map.1 member
  have close := List.mem_mergeSort.1 (List.mem_filter.1 (List.mem_of_mem_take ranked)).1
  obtain ⟨name, listed, rfl⟩ := List.mem_map.1 close
  exact listed

namespace Partial.Registry

variable {α : Type}

/-- What registrations bind. -/
def normalized (registrations : List (String × α)) : Entries α :=
  registrations.map fun registration => (normalize registration.1, registration.2)

theorem templates_ofList (registrations : List (String × α)) :
    (ofList registrations).templates = Entries.ofPairs (normalized registrations) := by
  have from_any : ∀ registry : Registry α,
      (registrations.foldl (fun registry entry => registry.register entry.1 entry.2) registry).templates =
        Entries.insertAll registry.templates (normalized registrations) := by
    induction registrations with
    | nil => exact fun _ => rfl
    | cons registration rest ih => exact fun registry => ih (registry.register registration.1 registration.2)
  exact from_any {}

/-- The template is that of the last registration with this normalized name. -/
def Last (registrations : List (String × α)) (name : String) (template : α) : Prop :=
  ∃ before spelled after, registrations = before ++ (spelled, template) :: after ∧ normalize spelled = name ∧
    ∀ later ∈ after, normalize later.1 ≠ name

theorem last_concat {registrations : List (String × α)} {registration : String × α} {name : String} {template : α} :
    Last (registrations ++ [registration]) name template ↔
      if normalize registration.1 = name then registration.2 = template else Last registrations name template := by
  constructor
  · rintro ⟨before, spelled, after, shape, same, others⟩
    obtain rfl | ⟨after, last, rfl⟩ := after.eq_nil_or_concat'
    · obtain ⟨rfl, ended⟩ := List.append_inj' shape rfl
      rw [List.singleton_inj.1 ended, if_pos same]
    · rw [← List.cons_append, ← List.append_assoc] at shape
      obtain ⟨rfl, ended⟩ := List.append_inj' shape rfl
      rw [List.singleton_inj.1 ended, if_neg (others last (by simp))]
      exact ⟨before, spelled, after, rfl, same, fun later member => others later (by simp [member])⟩
  · split
    · rename_i same
      rintro rfl
      exact ⟨registrations, registration.1, [], rfl, same, by simp⟩
    · rename_i other
      rintro ⟨before, spelled, after, rfl, same, others⟩
      refine ⟨before, spelled, after ++ [registration], by simp, same, fun later member => ?_⟩
      obtain within | last := List.mem_append.1 member
      · exact others later within
      · rw [List.mem_singleton.1 last]
        exact other

theorem get?_ofList {registrations : List (String × α)} {name : String} {template : α} :
    Entries.get? name (ofList registrations).templates = some template ↔ Last registrations name template := by
  rw [templates_ofList, Entries.ofPairs, Entries.get?_insertAll, List.append_nil]
  induction registrations using List.reverseRecOn with
  | nil => simp [normalized, Entries.get?, Last]
  | append_singleton registrations registration ih =>
    rw [last_concat, normalized, List.map_append, List.reverse_append]
    show (if normalize registration.1 = name then some registration.2 else _) = some template ↔ _
    split
    · exact Option.some_inj
    · exact ih

theorem names_ofList (registrations : List (String × α)) :
    (ofList registrations).names = (registrations.map fun registration => normalize registration.1).eraseDups := by
  have none : Entries.Distinct ([] : Entries α) := List.nodup_nil
  rw [names, templates_ofList, Entries.ofPairs, Entries.keys_insertAll _ none, List.nil_append]
  simp only [Entries.keys, normalized, List.map_map, Function.comp_def]

theorem nodup_names_ofList (registrations : List (String × α)) : (ofList registrations).names.Nodup := by
  rw [names, templates_ofList]
  exact Entries.distinct_ofPairs _

theorem size_ofList (registrations : List (String × α)) : (ofList registrations).size =
    (registrations.map fun registration => normalize registration.1).toFinset.card := by
  have members : (ofList registrations).names.toFinset =
      (registrations.map fun registration => normalize registration.1).toFinset := by
    ext name
    rw [names_ofList, List.mem_toFinset, List.mem_toFinset, List.mem_eraseDups]
  rw [← members, List.toFinset_card_of_nodup (nodup_names_ofList registrations), names, Entries.keys, List.length_map]
  rfl

theorem mem_names_ofList {registrations : List (String × α)} {name : String} :
    name ∈ (ofList registrations).names ↔ ∃ registration ∈ registrations, normalize registration.1 = name := by
  rw [names_ofList, List.mem_eraseDups, List.mem_map]

section LookUp

variable {registry : Registry α} {name : String}

theorem resolve_eq_ok_iff {template : α} :
    registry.resolve name = .ok template ↔ Entries.get? (normalize name) registry.templates = some template := by
  unfold resolve
  split <;> simp_all

theorem contains_iff : registry.contains name = true ↔ normalize name ∈ registry.names := by
  constructor
  · intro found
    by_contra fresh
    rw [contains, Entries.get?_of_fresh fresh] at found
    contradiction
  · intro listed
    obtain ⟨template, stored⟩ := Entries.exists_get?_of_mem listed
    rw [contains, stored, Option.isSome_some]

theorem resolve_of_unlisted (unlisted : normalize name ∉ registry.names) :
    registry.resolve name = .error (.partialNotFound name (Text.similar (normalize name) registry.names)) := by
  rw [resolve, Entries.get?_of_fresh unlisted]

theorem resolve_eq_error_iff {error : RenderError} : registry.resolve name = .error error ↔
    normalize name ∉ registry.names ∧
      error = .partialNotFound name (Text.similar (normalize name) registry.names) := by
  constructor
  · intro failed
    by_cases listed : normalize name ∈ registry.names
    · obtain ⟨template, stored⟩ := Entries.exists_get?_of_mem listed
      rw [resolve_eq_ok_iff.2 stored] at failed
      contradiction
    · rw [resolve_of_unlisted listed] at failed
      exact ⟨listed, (Except.error.inj failed).symm⟩
  · rintro ⟨unlisted, rfl⟩
    exact resolve_of_unlisted unlisted

/-- Names with one normalized form are resolved alike; an unknown one is quoted as it was asked for. -/
theorem resolve_alias (registry : Registry α) {one other : String} (same : normalize one = normalize other) :
    (∃ template, registry.resolve one = .ok template ∧ registry.resolve other = .ok template) ∨
      ∃ suggestions, registry.resolve one = .error (.partialNotFound one suggestions) ∧
        registry.resolve other = .error (.partialNotFound other suggestions) := by
  by_cases listed : normalize one ∈ registry.names
  · obtain ⟨template, stored⟩ := Entries.exists_get?_of_mem listed
    exact .inl ⟨template, resolve_eq_ok_iff.2 stored, resolve_eq_ok_iff.2 (same ▸ stored)⟩
  · refine .inr ⟨_, resolve_of_unlisted listed, ?_⟩
    rw [same] at listed ⊢
    exact resolve_of_unlisted listed

end LookUp

/-- The name is listed with a template, and asking for it gives this one. -/
def Found (registry : Registry α) (name : String) : Prop :=
  ∃ template, Entries.get? name registry.templates = some template ∧ registry.contains name = true ∧
    registry.resolve name = .ok template

theorem found_of_normalized {registry : Registry α} {name : String} (listed : name ∈ registry.names)
    (stable : normalize name = name) : registry.Found name := by
  obtain ⟨template, stored⟩ := Entries.exists_get?_of_mem listed
  exact ⟨template, stored, contains_iff.2 (stable.symm ▸ listed), resolve_eq_ok_iff.2 (stable.symm ▸ stored)⟩

theorem mem_names_of_suggested {registry : Registry α} {missing suggestion : String} {error : RenderError}
    (failed : registry.resolve missing = .error error) (suggested : suggestion ∈ error.suggestions) :
    suggestion ∈ registry.names := by
  obtain ⟨-, rfl⟩ := resolve_eq_error_iff.1 failed
  exact Text.mem_of_mem_similar suggested

theorem found_of_single_underscores {registrations : List (String × α)}
    (single : ∀ registration ∈ registrations, ¬['_', '_'] <+: segment registration.1) {name : String}
    (listed : name ∈ (ofList registrations).names) : (ofList registrations).Found name := by
  refine found_of_normalized listed ?_
  obtain ⟨registration, made, rfl⟩ := mem_names_ofList.1 listed
  exact (normalize_normalize_iff _).2 (single registration made)

/--
A listed name is found unless it starts its segment with an underscore, as after a registration with two of
them; it then stands for the name without the underscore. If no registration has two underscores, all listed
names are found, and so are all suggestions.
-/
theorem listed_names_found (registrations : List (String × α)) :
    (∀ name ∈ (ofList registrations).names,
      ((segment name).head? ≠ some '_' → (ofList registrations).Found name) ∧
      ((segment name).head? = some '_' → normalize name ≠ name ∧
        ((ofList registrations).contains name = true ↔ normalize name ∈ (ofList registrations).names) ∧
        (∀ template, (ofList registrations).resolve name = .ok template ↔
          Entries.get? (normalize name) (ofList registrations).templates = some template) ∧
        ∃ registration ∈ registrations, ['_', '_'] <+: segment registration.1 ∧
          normalize registration.1 = name)) ∧
    (∀ (missing : String) (error : RenderError), (ofList registrations).resolve missing = .error error →
      ∀ suggestion ∈ error.suggestions, suggestion ∈ (ofList registrations).names) ∧
    ((∀ registration ∈ registrations, ¬['_', '_'] <+: segment registration.1) →
      (∀ name ∈ (ofList registrations).names, (ofList registrations).Found name) ∧
      ∀ (missing : String) (error : RenderError), (ofList registrations).resolve missing = .error error →
        ∀ suggestion ∈ error.suggestions, (ofList registrations).Found suggestion) := by
  refine ⟨fun name listed => ⟨fun plain => ?_, fun underscored => ?_⟩, ?_, fun single => ⟨?_, ?_⟩⟩
  · exact found_of_normalized listed ((normalize_eq_self_iff name).2 plain)
  · refine ⟨fun stable => (normalize_eq_self_iff name).1 stable underscored, contains_iff,
      fun _ => resolve_eq_ok_iff, ?_⟩
    obtain ⟨registration, made, rfl⟩ := mem_names_ofList.1 listed
    rw [segment_normalize, head?_dropUnderscore] at underscored
    exact ⟨registration, made, underscored, rfl⟩
  · exact fun missing error failed suggestion => mem_names_of_suggested failed
  · exact fun name => found_of_single_underscores single
  · intro missing error failed suggestion suggested
    exact found_of_single_underscores single (mem_names_of_suggested failed suggested)

/-- `blog/_draft` is listed but not found, and `blog/post` is suggested and found. -/
theorem listed_names_found_blog :
    (ofList [("blog/__draft", 1), ("blog/_post", 2)]).names = ["blog/_draft", "blog/post"] ∧
      (ofList [("blog/__draft", 1), ("blog/_post", 2)]).contains "blog/_draft" = false ∧
      (ofList [("blog/_post", 2)]).resolve "blog/posts" = .error (.partialNotFound "blog/posts" ["blog/post"]) ∧
      (ofList [("blog/_post", 2)]).Found "blog/post" := by
  have names : (ofList [("blog/__draft", 1), ("blog/_post", 2)]).names = ["blog/_draft", "blog/post"] := by
    decide +kernel
  have failed : (ofList [("blog/_post", 2)]).resolve "blog/posts" =
      .error (.partialNotFound "blog/posts" ["blog/post"]) := by
    decide +kernel
  obtain ⟨each, -⟩ := listed_names_found [("blog/__draft", 1), ("blog/_post", 2)]
  obtain ⟨-, underscored⟩ := each "blog/_draft" (by simp [names])
  obtain ⟨-, counted, -⟩ := underscored (by decide +kernel)
  obtain ⟨-, -, found⟩ := listed_names_found [("blog/_post", 2)]
  obtain ⟨-, suggested⟩ := found (by decide +kernel)
  refine ⟨names, ?_, failed, suggested _ _ failed _ (by simp [RenderError.suggestions])⟩
  rw [Bool.eq_false_iff, ne_eq, counted, names]
  decide +kernel

end Partial.Registry

end Stencil
