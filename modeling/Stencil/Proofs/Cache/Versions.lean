import Stencil.Proofs.Cache.Flattened

/-!
# Digests and versions in store keys

A store key has the namespace first and the version last (`toList_storeKey`). The texts are joined without marks, but
what stands before a digest is the same for all keys of a template, all digests are of one length, and no text cancels
a version that comes behind it. So a change of either gives other keys (`fresh_storeKeys`).
-/

namespace Stencil.Cache

/-- Texts of one length can be told apart by what they are joined with. -/
theorem glue_inj_of_length {left other right rest : List Char} (lengths : left.length = other.length)
    (same : glue left right = glue other rest) : left = other := by
  have extends_left : ∀ left right : List Char, left = [] ∨ ∃ tail, glue left right = left ++ tail := by
    intro left right
    by_cases first : left = []
    · exact .inl first
    · by_cases second : right = []
      · exact .inr ⟨[], by rw [second, glue_nil, List.append_nil]⟩
      · exact .inr ⟨_, glue_of_ne_nil first second⟩
  obtain rfl | ⟨tail, one⟩ := extends_left left right
  · exact (List.length_eq_zero_iff.1 lengths.symm).symm
  · obtain rfl | ⟨more, two⟩ := extends_left other rest
    · exact List.length_eq_zero_iff.1 lengths
    · rw [one, two] at same
      exact List.append_inj_left same lengths

/-- The version of a key; none is as good as an empty one. -/
def Options.versionChars (options : Options) : List Char := (options.version.getD "").toList

theorem Namer.toList_storeKey (namer : Namer) (space : String) (key : KeyExpr) (options : Options) :
    (namer.storeKey space key options).toList =
      glue space.toList (glue (namer.name key options).1.chars options.versionChars) := by
  have last : joinParts (KeyExpr.charsOfParts (options.version.map KeyExpr.text).toList) = options.versionChars := by
    obtain ⟨_, _ | version, _⟩ := options
    · rfl
    · exact (joinParts_cons _ _).trans (glue_nil _)
  rw [storeKey, KeyExpr.toList_expand, keyParts, KeyExpr.chars]
  by_cases empty : space = ""
  · simp [empty, KeyExpr.charsOfParts, joinParts_cons, nil_glue, last]
  · simp [empty, KeyExpr.charsOfParts, KeyExpr.chars, joinParts_cons, last]

namespace TemplateDigest

theorem chars_decorate (template : TemplateDigest) (key : KeyExpr) :
    (template.decorate key).chars = glue template.template.toList (glue template.digest.toList key.chars) := by
  have none : joinParts [] = [] := rfl
  simp [decorate, KeyExpr.chars, KeyExpr.charsOfParts, joinParts_cons, none, glue_nil]

/-- The namers that put the template's digest into keys, and the options with which they do. -/
inductive Marks (template : TemplateDigest) : Namer → Options → Prop where
  | current {options : Options} (kept : options.skipDigest = false) : Marks template template.namer options
  | legacy (options : Options) : Marks template template.legacyNamer options

theorem Marks.name {template : TemplateDigest} {namer : Namer} {options : Options}
    (marks : template.Marks namer options) (key : KeyExpr) : (namer.name key options).1 = template.decorate key := by
  cases marks with
  | current kept => simp [Namer.name, namer, kept]
  | legacy => rfl

/-- The digest stands at the same place in all keys of one template and namespace. -/
theorem digest_of_storeKey_eq {one two : TemplateDigest} (template : one.template = two.template)
    (lengths : one.digest.length = two.digest.length) {namer other : Namer} {options others : Options}
    (marks : one.Marks namer options) (marksOther : two.Marks other others) {space : String} {key otherKey : KeyExpr}
    (same : namer.storeKey space key options = other.storeKey space otherKey others) : one.digest = two.digest := by
  have texts := congrArg String.toList same
  rw [Namer.toList_storeKey, Namer.toList_storeKey, marks.name, marksOther.name, chars_decorate, chars_decorate,
    template, glue_assoc, glue_assoc, glue_assoc, glue_assoc] at texts
  exact String.toList_inj.1 (glue_inj_of_length lengths (glue_left_inj (glue_left_inj texts)))

end TemplateDigest

/-- The standard namers have no look at the version. -/
theorem Namer.Standard.name_version {namer : Namer} (standard : namer.Standard) (key : KeyExpr) (options : Options)
    (version : Option String) : namer.name key { options with version := version } = namer.name key options := by
  cases standard <;> rfl

theorem Namer.Standard.version_of_storeKey_eq {namer : Namer} (standard : namer.Standard) {space : String}
    {key : KeyExpr} {options : Options} {version other : Option String}
    (same : namer.storeKey space key { options with version := version } =
      namer.storeKey space key { options with version := other }) : version.getD "" = other.getD "" := by
  have texts := congrArg String.toList same
  rw [toList_storeKey, toList_storeKey, standard.name_version key options version,
    standard.name_version key options other] at texts
  exact String.toList_inj.1 (glue_left_inj (glue_left_inj texts))

/--
A changed source gives a template other keys, whatever is cached and under whatever versions, and a changed version
gives other keys to what is cached under it.
-/
theorem fresh_storeKeys (space : String) :
    (∀ template source changed : String,
      (TemplateDigest.ofSource template source).digest ≠ (TemplateDigest.ofSource template changed).digest →
      ∀ namer other options others, (TemplateDigest.ofSource template source).Marks namer options →
        (TemplateDigest.ofSource template changed).Marks other others →
        ∀ key otherKey, namer.storeKey space key options ≠ other.storeKey space otherKey others) ∧
    ∀ namer : Namer, namer.Standard → ∀ (key : KeyExpr) (options : Options) (version other : Option String),
      version ≠ other → (∃ text, text ≠ "" ∧ (version = some text ∨ other = some text)) →
      namer.storeKey space key { options with version := version } ≠
        namer.storeKey space key { options with version := other } := by
  refine ⟨fun template source changed differ namer other options others marks marksOther key otherKey same => ?_,
    fun namer standard key options version other differ nonempty same => ?_⟩
  · have lengths : (TemplateDigest.ofSource template source).digest.length =
        (TemplateDigest.ofSource template changed).digest.length :=
      (TemplateDigest.length_digest template source).trans (TemplateDigest.length_digest template changed).symm
    exact differ (TemplateDigest.digest_of_storeKey_eq rfl lengths marks marksOther same)
  · have texts := standard.version_of_storeKey_eq same
    obtain ⟨text, some, rfl | rfl⟩ := nonempty
    · cases other <;> simp_all
    · cases version <;> simp_all

/-- Keys that try to take the place of the digest, or of a version. -/
theorem fresh_storeKeys_posts :
    let one := TemplateDigest.ofSource "posts" "one"
    let two := TemplateDigest.ofSource "posts" "two"
    one.digest ≠ two.digest ∧
      one.namer.storeKey "" (.text "k") { version := some "v2" } ≠
        two.legacyNamer.storeKey "" (.list [.text two.digest, .text "k/v2"]) { skipDigest := true } ∧
      Namer.plain.storeKey "views" (.text "") { version := some "" } ≠
        Namer.plain.storeKey "views" (.text "") { version := some "views" } := by
  intro one two
  have differ : one.digest ≠ two.digest := by decide +kernel
  refine ⟨differ, (fresh_storeKeys "").1 _ _ _ differ _ _ _ _ (.current rfl) (.legacy _) _ _, ?_⟩
  exact (fresh_storeKeys "views").2 .plain .plain _ {} _ _ (by decide) ⟨"views", by decide, .inr rfl⟩

end Stencil.Cache
