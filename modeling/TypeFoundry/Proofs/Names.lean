import TypeFoundry.Proofs.Lexing

/-!
# Names that are one word

The words of a scanned text are identifiers (`wordsSat_scan`), also in the token trees that the text
is read as (`wordsSat_tokens?`). So a name that a request may use and that is exactly one word
(`IsPlain`) can stand in a unit as it is: it names items, modules and fields, and it can be a part of
paths and imports.
-/

set_option autoImplicit false

namespace TypeFoundry

open Source Text

namespace Source

open Scan

theorem isIdentifier_of_plainWord {cs w rest : List Char} (h : plainWord cs = some (w, rest)) :
    Identifier.isWord w = true := by
  cases cs with
  | nil => cases h
  | cons c tail =>
    simp only [plainWord] at h
    split at h
    · rename_i hc
      simp only [Option.some.injEq, Prod.mk.injEq] at h
      rw [← h.1]
      simp [Identifier.isWord, hc]
    · cases h

theorem isIdentifier_of_isWord {w : List Char} (hw : Identifier.isWord w = true) :
    isIdentifier (.ofList w) = true := by
  simp only [isIdentifier, String.toList_ofList]
  split
  · rename_i tail
    have : Identifier.isContinue '#' = false := by decide
    simp [Identifier.isWord, this] at hw
  · exact hw

theorem isIdentifier_of_word {cs rest : List Char} {w : String} (h : word cs = some (w, rest)) :
    isIdentifier w = true := by
  simp only [word] at h
  split at h
  · cases h
  · simp only [anyWord] at h
    split at h
    · rename_i tail htail
      simp only [Option.bind_eq_bind, Option.bind_eq_some_iff] at h
      obtain ⟨⟨v, left⟩, hv, h⟩ := h
      split at h
      · cases h
      · rename_i hn
        simp only [Option.some.injEq, Prod.mk.injEq] at h
        rw [← h.1]
        simp only [isIdentifier, String.toList_ofList, Bool.and_eq_true, Bool.not_eq_true']
        exact ⟨isIdentifier_of_plainWord hv, by simpa using hn⟩
    · obtain ⟨⟨v, left⟩, hv, h⟩ := Option.map_eq_some_iff.1 h
      simp only [Prod.mk.injEq] at h
      rw [← h.1]
      exact isIdentifier_of_isWord (isIdentifier_of_plainWord hv)

theorem isIdentifier_of_leaf {cs rest : List Char} {w : String}
    (h : leaf cs = some (.word w, rest)) : isIdentifier w = true := by
  simp only [leaf] at h
  split at h
  · simp at h
  · split at h
    · rename_i found hm
      -- a mark is no word
      simp only [mark, Option.bind_eq_bind, Option.bind_eq_some_iff] at hm
      obtain ⟨⟨c, left⟩, -, hm⟩ := hm
      rw [h] at hm
      split at hm
      · obtain ⟨x, -, hm⟩ := Option.bind_eq_some_iff.1 hm
        split at hm <;> simp at hm
      · simp at hm
    · obtain ⟨⟨v, left⟩, hv, h⟩ := Option.map_eq_some_iff.1 h
      simp only [Prod.mk.injEq, Lexeme.word.injEq] at h
      rw [← h.1]
      exact isIdentifier_of_word hv

/-- **The words of a scanned text** are identifiers. -/
theorem isIdentifier_of_lexemes {w : String} :
    ∀ {fuel : Nat} {stack : List (Delimiter × List Char)} {cs : List Char} {placed : List Placed},
      lexemes fuel stack cs = .ok placed → Lexeme.word w ∈ placed.map Placed.lexeme →
      isIdentifier w = true := by
  intro fuel
  induction fuel with
  | zero => intro stack cs placed h; cases h
  | succ fuel ih =>
    intro stack cs placed h hw
    -- each lexeme is put in front of those of the rest
    have step : ∀ (ls : List Lexeme) (stack : List (Delimiter × List Char)) (rest : List Char)
        (f : List Placed → List Placed),
        (∀ ps, (f ps).map Placed.lexeme = ls ++ ps.map Placed.lexeme) →
        (lexemes fuel stack rest).map f = .ok placed →
        (Lexeme.word w ∈ ls → isIdentifier w = true) → isIdentifier w = true := by
      intro ls stack rest f hf hok hls
      cases hrest : lexemes fuel stack rest with
      | error e => rw [hrest] at hok; cases hok
      | ok ps =>
        rw [hrest] at hok
        obtain rfl := Except.ok.inj hok
        rw [hf, List.mem_append] at hw
        exact hw.elim hls (ih hrest)
    unfold lexemes at h
    dsimp only at h
    generalize skipBlanks cs = cs' at h
    cases hdoc : docComment cs' with
    | some found =>
      obtain ⟨comment, inner, rest⟩ := found
      rw [hdoc] at h
      refine step (docLexemes comment inner) _ _ _ (fun ps => by simp [Function.comp_def]) h
        fun hm => ?_
      have : w = "doc" := by cases inner <;> simpa [docLexemes] using hm
      rw [this]
      decide
    | none =>
      rw [hdoc] at h
      cases cs' with
      | nil =>
        cases stack with
        | nil =>
          obtain rfl := Except.ok.inj h
          simp at hw
        | cons _ _ => cases h
      | cons c tail =>
        dsimp only at h
        split at h
        · exact step [_] _ _ _ (fun ps => rfl) h (by simp)
        · split at h
          · split at h
            · split at h
              · exact step [_] _ _ _ (fun ps => rfl) h (by simp)
              · cases h
            · cases h
          · split at h
            · rename_i l rest hleaf
              refine step [l] _ _ _ (fun ps => rfl) h fun hm => ?_
              obtain rfl := List.mem_singleton.1 hm
              exact isIdentifier_of_leaf hleaf
            · cases h

/-! ## Words of token trees -/

mutual

/-- Every word of the token tree satisfies `P`. -/
def TokenTree.WordsSat (P : String → Prop) : TokenTree → Prop
  | .word w => P w
  | .group _ inner => WordsSatAll P inner
  | _ => True

/-- Every word of the token trees satisfies `P`. -/
def WordsSatAll (P : String → Prop) : List TokenTree → Prop
  | [] => True
  | t :: ts => t.WordsSat P ∧ WordsSatAll P ts

end

/-- Planting adds no words. -/
theorem wordsSat_plant {P : String → Prop} {l : Lexeme} {stack : List Tokens}
    (hl : ∀ w, l = .word w → P w) (hs : ∀ ts ∈ stack, WordsSatAll P ts) :
    ∀ ts ∈ plant l stack, WordsSatAll P ts := by
  unfold plant
  split <;> simp_all [WordsSatAll, TokenTree.WordsSat]

theorem wordsSat_trees {P : String → Prop} {ls : List Lexeme} (h : ∀ w, .word w ∈ ls → P w) :
    WordsSatAll P (trees ls) := by
  have hstack : ∀ ts ∈ ls.foldr plant [[]], WordsSatAll P ts := by
    induction ls with
    | nil => simp [WordsSatAll]
    | cons l ls ih =>
      exact wordsSat_plant (fun w hw => h w (hw ▸ List.mem_cons_self))
        (ih fun w hw => h w (List.mem_cons_of_mem _ hw))
  simp only [trees]
  cases hd : (ls.foldr plant [[]]).head? with
  | none => simp [WordsSatAll]
  | some ts => exact hstack ts (List.mem_of_mem_head? hd)

/-- **The words of the token trees of a text** are identifiers. -/
theorem wordsSat_scan {cs : List Char} {placed : List Placed} (h : scan cs = .ok placed) :
    WordsSatAll (isIdentifier · = true) (trees (placed.map (·.lexeme))) :=
  wordsSat_trees fun _ hw => isIdentifier_of_lexemes h hw

theorem wordsSat_tokens? {s : String} {ts : Tokens} (h : tokens? s = some ts) :
    WordsSatAll (isIdentifier · = true) ts := by
  simp only [tokens?] at h
  split at h
  · rename_i placed hp
    obtain rfl := Option.some.inj h
    exact wordsSat_scan hp
  · cases h

end Source

/-! ## Plain names -/

/-- A name that may be used in a request is not reserved. -/
theorem not_isReserved_of_checkName {name : String} (h : checkName name = .ok ()) :
    isReserved name = false := by
  simp only [checkName] at h
  split at h
  · cases h
  · split at h
    · cases h
    · split at h
      · cases h
      · rename_i hr
        simpa using hr

/-- The name may be used in a request, and it is exactly one word. -/
structure IsPlain (name : String) : Prop where
  accepted : checkName name = .ok ()
  oneWord : tokens? name = some [.word name]

namespace IsPlain

variable {name : String}

theorem isIdentifier (h : IsPlain name) : isIdentifier name = true := by
  have := wordsSat_tokens? h.oneWord
  simpa [WordsSatAll, TokenTree.WordsSat] using this

theorem not_isReserved (h : IsPlain name) : isReserved name = false :=
  not_isReserved_of_checkName h.accepted

theorem isItemName (h : IsPlain name) : isItemName name = true := by
  simp [TypeFoundry.isItemName, h.isIdentifier, h.not_isReserved]

theorem isModuleName (h : IsPlain name) : isModuleName name = true := by
  simp [TypeFoundry.isModuleName, h.isIdentifier, h.not_isReserved]

end IsPlain

end TypeFoundry
