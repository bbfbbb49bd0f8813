import TypeFoundry.Proofs.FullNames

/-!
# Paths read back

The text of a path may be written with blanks and comments, behind `::` and behind the name of the crate.
`parse_rereads` says what is left of this in the path that the text denotes. The path from the root of the
crate always denotes the path again, however it is spaced. The path as it is shown does so just if it does
not start with `crate`, which is ignored once in front of a path (`display_not_reread`). Different paths
are shown differently.
-/

set_option autoImplicit false

namespace TypeFoundry.TypePath

open Source Text Synthesis

/-- The words of a path can be its parts, and they are words of the tokens. -/
theorem words?_eq_some {P : String → Prop} {ts : Tokens} {names : List String}
    (h : words? ts = some names) (hts : WordsSatAll P ts) :
    names ≠ [] ∧ ∀ w ∈ names, P w ∧ isSegment w = true := by
  fun_induction words? ts generalizing names with
  | case1 w hw =>
    obtain rfl := Option.some.inj h
    exact ⟨by simp, List.forall_mem_singleton.2 ⟨hts.1, hw⟩⟩
  | case2 => cases h
  | case3 w j rest hw ih =>
    obtain ⟨others, hothers, rfl⟩ := Option.map_eq_some_iff.1 h
    obtain ⟨-, hall⟩ := ih hothers hts.2.2.2
    exact ⟨by simp, List.forall_mem_cons.2 ⟨⟨hts.1, hw⟩, hall⟩⟩
  | case4 => cases h
  | case5 => cases h

theorem rootedWords?_eq_some {P : String → Prop} {ts : Tokens} {names : List String}
    (h : rootedWords? ts = some names) (hts : WordsSatAll P ts) :
    names ≠ [] ∧ ∀ w ∈ names, P w ∧ isSegment w = true := by
  unfold rootedWords? at h
  split at h
  · exact words?_eq_some h hts.2.2
  · exact words?_eq_some h hts

theorem dropCrate_subset (names : List String) : dropCrate names ⊆ names := by
  unfold dropCrate
  split
  · exact List.subset_cons_self _ _
  · exact List.Subset.refl _

/-- The parts in a path are those that it was put together from. -/
theorem ofSegments?_eq_some_iff {names : List String} {p : TypePath} :
    ofSegments? names = some p ↔ p.segments = names := by
  constructor
  · intro h
    obtain ⟨name, hlast, rfl⟩ := Option.map_eq_some_iff.1 h
    exact List.dropLast_append_getLast? name hlast
  · rintro rfl
    exact ofSegments?_segments p

theorem dropCrate_eq_self_iff {names : List String} :
    dropCrate names = names ↔ names.head? ≠ some "crate" := by
  constructor
  · intro hdrop hhead
    cases names with
    | nil => cases hhead
    | cons name rest =>
      obtain rfl := Option.some.inj hhead
      have hlength := congrArg List.length hdrop
      simp [dropCrate] at hlength
  · exact dropCrate_of_ne

/-- **The parts of a path that a text denotes** are words that can stand in a path. -/
theorem isPathName_of_parse {text : String} {p : TypePath} (h : parse text = some p) :
    ∀ w ∈ p.segments, isPathName w = true := by
  simp only [parse, Option.bind_eq_bind, Option.bind_eq_some_iff] at h
  obtain ⟨ts, htokens, names, hnames, hp⟩ := h
  obtain ⟨-, hwords⟩ := rootedWords?_eq_some hnames (wordsSat_tokens? htokens)
  intro w hw
  rw [ofSegments?_eq_some_iff.1 hp] at hw
  exact Bool.and_eq_true_iff.2 (hwords w (dropCrate_subset names hw))

/-- Two colons with a blank on either side, as tokens are shown. -/
theorem spells_spacedColons : Spells Identifier.isStart (op "::") " :: ".toList := by
  have hjoint : Spells (· == ':') [.mark ':' true] [':'] :=
    .jointMark (by decide) fun d hd => by rw [eq_of_beq hd]; decide
  have hlone : Spells (· == ' ') [.mark ':' false] [':'] :=
    .loneMark (by decide) fun d hd => by rw [eq_of_beq hd]; decide
  have hgap : ∀ ends, Spells ends [] [' '] := fun _ => .gap (Scan.forall_mem_of_all (by decide +kernel))
  exact ((hgap (· == ':')).append (hjoint.append hlone ⟨':', rfl, rfl⟩) ⟨':', rfl, rfl⟩).append
    (hgap Identifier.isStart) ⟨' ', rfl, rfl⟩

section

variable {p : TypePath} (hp : ∀ w ∈ p.segments, isPathName w = true)
include hp

/-- The text that is shown denotes the path, unless that starts with the name of the crate. -/
theorem parse_display_iff : parse p.display = some p ↔ p.segments.head? ≠ some "crate" := by
  rw [display, parse_names spells_colons ⟨':', rfl, by decide⟩ p.segments_ne_nil hp,
    ofSegments?_eq_some_iff, eq_comm, dropCrate_eq_self_iff]

theorem isPathName_crateSegments : ∀ w ∈ p.crateSegments, isPathName w = true :=
  List.forall_mem_cons.2 ⟨by decide, hp⟩

/-- The path from the root of the crate denotes the path, whatever stands between its words. -/
theorem parse_crateSegments {sep : String} (hsep : Spells Identifier.isStart (op "::") sep.toList)
    (hends : ∃ c, sep.toList.head? = some c ∧ Scan.endsWord c = true) :
    parse (sep.intercalate p.crateSegments) = some p :=
  (parse_names hsep hends (List.cons_ne_nil _ _) (isPathName_crateSegments hp)).trans
    (ofSegments?_segments p)

theorem parse_crateTokens {text : String}
    (h : tokens? (trim text) = some (Ty.ofNames false p.crateSegments).tokens) : parse text = some p := by
  rw [tokens_ofNames] at h
  exact (parse_of_tokens (List.cons_ne_nil _ _)
    (fun w hw => isSegment_of_isPathName (isPathName_crateSegments hp w hw)) h).trans (ofSegments?_segments p)

end

/-- Different paths are shown differently: with the name of the crate in front the texts denote them. -/
theorem display_injective {p q : TypePath} (hp : ∀ w ∈ p.segments, isPathName w = true)
    (hq : ∀ w ∈ q.segments, isPathName w = true) (h : p.display = q.display) : p = q := by
  have hcrate : ∀ p : TypePath, "::".intercalate p.crateSegments = "crate" ++ "::" ++ p.display :=
    fun p => String.intercalate_cons_of_ne_nil p.segments_ne_nil
  have hends : ∃ c, "::".toList.head? = some c ∧ Scan.endsWord c = true := ⟨':', rfl, by decide⟩
  have hparse := parse_crateSegments hp spells_colons hends
  rw [hcrate, h, ← hcrate, parse_crateSegments hq spells_colons hends] at hparse
  exact (Option.some.inj hparse).symm

/-- **A path that a text denotes** is denoted by the text that it is shown as just if it does not start
with the name of the crate. It is always denoted by the path from the root of the crate: by every text that
is cut into the tokens of that path, so with and without blanks between them. And no other path that a
text denotes is shown as it is. -/
theorem parse_rereads {text : String} {p : TypePath} (h : parse text = some p) :
    (parse p.display = some p ↔ p.segments.head? ≠ some "crate") ∧
    (∀ text', tokens? (trim text') = some (Ty.ofNames false p.crateSegments).tokens →
      parse text' = some p) ∧
    parse ("::".intercalate p.crateSegments) = some p ∧
    parse (" :: ".intercalate p.crateSegments) = some p ∧
    ∀ text' q, parse text' = some q → p ≠ q → p.display ≠ q.display := by
  have hp := isPathName_of_parse h
  refine ⟨parse_display_iff hp, fun _ => parse_crateTokens hp,
    parse_crateSegments hp spells_colons ⟨':', rfl, by decide⟩,
    parse_crateSegments hp spells_spacedColons ⟨' ', rfl, by decide⟩, fun text' q hq hne hdisplay => ?_⟩
  exact hne (display_injective hp (isPathName_of_parse hq) hdisplay)

/-- A path with blanks, a comment, a raw word and both prefixes. -/
theorem parse_rereads_raw :
    let p : TypePath := ⟨["models", "r#type"], "Company"⟩
    parse " :: crate::models:: r#type /* its module */ ::Company " = some p ∧
      parse "models::r#type::Company" = some p ∧
      parse "crate :: models :: r#type :: Company" = some p := by
  have hparse : parse " :: crate::models:: r#type /* its module */ ::Company " =
      some ⟨["models", "r#type"], "Company"⟩ := by decide +kernel
  obtain ⟨hdisplay, -, -, hspaced, -⟩ := parse_rereads hparse
  exact ⟨hparse, hdisplay.2 (by decide), hspaced⟩

/-- One name of the crate in front is ignored, so of two the path keeps one, which is ignored when the
text that the path is shown as is read. -/
theorem display_not_reread :
    ∃ p, parse "crate::crate::X" = some p ∧ p.display = "crate::X" ∧ parse p.display ≠ some p :=
  ⟨⟨["crate"], "X"⟩, by decide +kernel, by decide +kernel, by decide +kernel⟩

end TypeFoundry.TypePath
