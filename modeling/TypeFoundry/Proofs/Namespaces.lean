import Mathlib.Data.List.TakeWhile
import TypeFoundry.Proofs.Commuting
import TypeFoundry.Proofs.Verbatim
import TypeFoundry.Proofs.Views

/-!
# Namespaces and full names

A namespace is cut at its double colons and the parts are trimmed, and a full name is cut into tokens. Both
see the same words where the words are plain: `Lists` says that a text lists words with blanks around them,
what the cut leaves is listed by the text (`lists_splitColons`), and a text that lists words is cut into
their tokens (`Lists.tokens`). What the cut leaves is found again in the words joined, unless one of them
but the last ends with a colon (`splitColons_join`), which a comment in it can do. `segments_agree` puts
both together.
-/

set_option autoImplicit false

namespace TypeFoundry

open Source Text Synthesis
open Source.TokenTree (flatAll)

/-! ## Cutting at double colons -/

namespace Namespace

/-- The first part is what the text starts with. -/
theorem isPrefix_splitColons {cs part : List Char} {parts : List (List Char)}
    (h : splitColons cs = part :: parts) : part <+: cs := by
  fun_induction splitColons cs generalizing part parts with
  | case1 =>
    obtain ⟨rfl, -⟩ := List.cons.inj h
    exact List.nil_prefix
  | case2 rest ih =>
    obtain ⟨rfl, -⟩ := List.cons.inj h
    exact List.nil_prefix
  | case3 c rest _ hnil => exact absurd hnil (splitColons_ne_nil rest)
  | case4 c rest _ part' parts' hrest ih =>
    obtain ⟨rfl, -⟩ := List.cons.inj h
    exact (List.cons_prefix_cons).2 ⟨rfl, ih hrest⟩

/-- No part holds a double colon. -/
theorem whole_of_mem {cs part : List Char} (h : part ∈ splitColons cs) : ¬ [':', ':'] <:+: part := by
  fun_induction splitColons cs generalizing part with
  | case1 => simp [List.mem_singleton.1 h]
  | case2 rest ih =>
    rcases List.mem_cons.1 h with rfl | h
    · simp
    · exact ih h
  | case3 c rest _ hnil => exact absurd hnil (splitColons_ne_nil rest)
  | case4 c rest hc part' parts' hrest ih =>
    rw [hrest] at ih
    rcases List.mem_cons.1 h with rfl | h
    · rw [List.infix_cons_iff, List.cons_prefix_cons]
      rintro (⟨rfl, d, hd⟩ | hcolons)
      · -- the part behind a colon starts as the text behind it does
        obtain ⟨e, he⟩ := isPrefix_splitColons hrest
        exact hc (d ++ e) rfl (by rw [← he, ← hd]; simp)
      · exact ih List.mem_cons_self hcolons
    · exact ih (List.mem_cons_of_mem _ h)

theorem splitColons_of_whole {cs : List Char} (h : ¬ [':', ':'] <:+: cs) : splitColons cs = [cs] := by
  induction cs with
  | nil => rfl
  | cons c cs ih =>
    have ih := ih fun hcolons => h (List.infix_cons hcolons)
    refine splitColons_cons (fun hc hhead => h ?_) ih
    obtain ⟨tail, rfl⟩ := List.head?_eq_some_iff.1 hhead
    exact ⟨[], tail, by simp [hc]⟩

/-- A part that does not run into the double colon behind it. -/
theorem splitColons_append {a : List Char} (ha : ¬ [':', ':'] <:+: a) (hlast : a.getLast? ≠ some ':')
    (b : List Char) : splitColons (a ++ ':' :: ':' :: b) = a :: splitColons b := by
  induction a with
  | nil => rfl
  | cons c a ih =>
    have hlast' : a.getLast? ≠ some ':' := by
      cases a with
      | nil => simp
      | cons d a => rwa [List.getLast?_cons_cons] at hlast
    refine splitColons_cons (fun hc hhead => ?_) (ih (fun hcolons => ha (List.infix_cons hcolons)) hlast')
    cases a with
    | nil => exact hlast (by rw [hc]; rfl)
    | cons d a => exact ha ⟨[], a, by simp_all⟩

/-- A part that ends with a colon loses it to the part behind the double colon. -/
theorem splitColons_append_colon {a b : List Char} (ha : ¬ [':', ':'] <:+: a)
    (hlast : a.getLast? = some ':') (hb : b.head? ≠ some ':') :
    ∃ part ∈ splitColons (a ++ ':' :: ':' :: b), part.head? = some ':' := by
  obtain ⟨a', rfl⟩ := List.getLast?_eq_some_iff.1 hlast
  have hlast' : a'.getLast? ≠ some ':' := by
    intro hcolon
    obtain ⟨a'', rfl⟩ := List.getLast?_eq_some_iff.1 hcolon
    exact ha ⟨a'', [], by simp⟩
  obtain ⟨part, parts, hparts⟩ := List.exists_cons_of_ne_nil (splitColons_ne_nil b)
  have hcut : splitColons (a' ++ [':'] ++ ':' :: ':' :: b) = a' :: splitColons (':' :: b) := by
    rw [← splitColons_append (fun hcolons => ha (hcolons.trans (List.infix_append_left ..))) hlast']
    simp
  rw [hcut, splitColons_cons (fun _ => hb) hparts]
  exact ⟨':' :: part, by simp, rfl⟩

end Namespace

/-! ## Trimmed texts -/

namespace Text

theorem exists_dropBlanks (cs : List Char) :
    ∃ b, cs = b ++ dropBlanks cs ∧ ∀ c ∈ b, isBlank c = true :=
  ⟨cs.takeWhile isBlank, List.takeWhile_append_dropWhile.symm, fun _ hc => List.mem_takeWhile_imp hc⟩

theorem head?_dropBlanks {cs : List Char} {c : Char} (h : (dropBlanks cs).head? = some c) :
    isBlank c = false := by
  have hhead := List.head?_dropWhile_not isBlank cs
  rw [dropBlanks] at h
  rw [h] at hhead
  simpa using hhead

/-- What is trimmed off are blanks. -/
theorem exists_trim (s : String) : ∃ b b', s.toList = b ++ (trim s).toList ++ b' ∧
    (∀ c ∈ b, isBlank c = true) ∧ ∀ c ∈ b', isBlank c = true := by
  obtain ⟨b, hb, hblank⟩ := exists_dropBlanks s.toList
  obtain ⟨b', hb', hblank'⟩ := exists_dropBlanks (dropBlanks s.toList).reverse
  refine ⟨b, b'.reverse, ?_, hblank, fun c hc => hblank' c (List.mem_reverse.1 hc)⟩
  rw [trim, String.toList_ofList, List.append_assoc, ← List.reverse_append, ← hb', List.reverse_reverse,
    ← hb]

/-- A trimmed text ends with no blank. -/
theorem getLast?_trim {s : String} {c : Char} (h : (trim s).toList.getLast? = some c) :
    isBlank c = false := by
  rw [trim, String.toList_ofList, List.getLast?_reverse] at h
  exact head?_dropBlanks h

/-- A trimmed text starts with no blank. -/
theorem head?_trim {s : String} {c : Char} (h : (trim s).toList.head? = some c) : isBlank c = false := by
  obtain ⟨b, hb, -⟩ := exists_dropBlanks (dropBlanks s.toList).reverse
  suffices hhead : (dropBlanks s.toList).head? = some c from head?_dropBlanks hhead
  rw [← List.reverse_reverse (dropBlanks s.toList), hb, List.reverse_append, List.head?_append]
  rw [trim, String.toList_ofList] at h
  rw [h]
  rfl

/-- What is no blank at the start of a text stays there. -/
theorem head?_trim_eq {s : String} {c : Char} (h : s.toList.head? = some c) (hc : isBlank c = false) :
    (trim s).toList.head? = some c := by
  obtain ⟨b, b', hs, hb, hb'⟩ := exists_trim s
  rw [hs] at h
  cases b with
  | cons d b =>
    obtain rfl := Option.some.inj h
    simp [hb d List.mem_cons_self] at hc
  | nil =>
    cases hmiddle : (trim s).toList with
    | nil =>
      rw [hmiddle] at h
      simp [hb' c (List.mem_of_mem_head? h)] at hc
    | cons d cs =>
      rw [hmiddle] at h
      exact h

/-- Blanks in front of a text are all that is trimmed off, if it has no others at its ends. -/
theorem trim_of_blanks {s : String} {b cs : List Char} (hs : s.toList = b ++ cs)
    (hb : ∀ c ∈ b, isBlank c = true) (hhead : ∀ c ∈ cs.head?, isBlank c = false)
    (hlast : ∀ c ∈ cs.getLast?, isBlank c = false) : trim s = .ofList cs := by
  have hdrop : dropBlanks s.toList = cs := by
    rw [hs, dropBlanks, List.dropWhile_append_of_pos hb]
    exact dropBlanks_eq_self hhead
  rw [trim, hdrop, dropBlanks_eq_self (by simpa using hlast), List.reverse_reverse]

end Text

/-! ## Accepted names in a namespace -/

namespace Source

theorem foldr_plant_ne_nil (ls : List Lexeme) : ls.foldr plant [[]] ≠ [] := by
  induction ls with
  | nil => simp
  | cons l ls ih =>
    obtain ⟨top, stack, hstack⟩ := List.exists_cons_of_ne_nil ih
    rw [List.foldr_cons, hstack]
    cases l with
    | opening d => cases stack <;> simp [plant]
    | _ => simp [plant]

/-- A text that starts with a mark starts with that token. -/
theorem tokens?_mark {s : String} {ts : Tokens} {c : Char} (h : tokens? s = some ts)
    (hhead : s.toList.head? = some c) (hc : c ∈ Scans.unitMarks) :
    ∃ isJoint us, ts = .mark c isJoint :: us := by
  obtain ⟨cs, hcs⟩ := List.head?_eq_some_iff.1 hhead
  obtain ⟨hslash, hsep, hopen, hclose⟩ := Scans.not_special_mark hc
  have hbom : Scan.dropMark (c :: cs) = c :: cs := by
    have hne : ∀ c ∈ Scans.unitMarks, c ≠ '\ufeff' := Scan.forall_mem_of_all (by decide)
    unfold Scan.dropMark
    split
    · rename_i heq
      exact absurd (List.cons.inj heq).1 (hne c hc)
    · rfl
  have hfirst : Scan.lexemes (cs.length + 1 + 1) [] (c :: cs) = (Scan.lexemes (cs.length + 1) [] cs).map
      (⟨.mark c (Scan.markChar cs).isSome, c :: cs⟩ :: ·) := by
    rw [Scan.lexemes]
    simp only [skipBlanks_of_ne hsep hslash, docComment_of_ne hslash, hopen, hclose, Scans.leaf_mark hc]
  unfold tokens? scan at h
  rw [hcs, hbom, List.length_cons, hfirst] at h
  cases hrest : Scan.lexemes (cs.length + 1) [] cs with
  | error => simp [hrest, Except.map] at h
  | ok placed =>
    obtain ⟨top, stack, hstack⟩ :=
      List.exists_cons_of_ne_nil (foldr_plant_ne_nil (placed.map (·.lexeme)))
    simp only [hrest, Except.map, Option.some.injEq, List.map_cons, trees, List.foldr_cons, hstack] at h
    exact ⟨_, top, h.symm⟩

end Source

/-- No accepted name starts with a colon. -/
theorem head?_ne_colon {name : String} (h : checkName name = .ok ()) : name.toList.head? ≠ some ':' := by
  intro hhead
  obtain ⟨w, -, -, htokens⟩ := exists_soleWord h
  obtain ⟨isJoint, ts, hts⟩ := tokens?_mark htokens hhead (by decide)
  cases (List.cons.inj hts).1

theorem ne_empty_of_checkName {name : String} (h : checkName name = .ok ()) : name.toList ≠ [] := by
  intro hempty
  obtain rfl : name = "" := String.toList_injective hempty
  exact absurd h (by decide)

namespace Namespace

/-- A text that can stand between double colons: an accepted name without blanks at its ends and without
a double colon. -/
structure IsPart (s : String) : Prop where
  accepted : checkName s = .ok ()
  trimmed : trim s = s
  whole : ¬ [':', ':'] <:+: s.toList

/-- **The modules that a text lists** are the trimmed parts of it. -/
theorem segments?_eq_some_iff {text : String} {segs : List String} : segments? text = some segs ↔
    (trim text = "" ∧ segs = []) ∨ (trim text ≠ "" ∧ (∀ s ∈ segs, checkName s = .ok ()) ∧
      segs = (splitColons (trim text).toList).map fun part => trim (.ofList part)) := by
  have hok : ∀ s : String, (checkName s).isOk = true ↔ checkName s = .ok () := by
    intro s
    cases checkName s <;> simp [Except.isOk, Except.toBool]
  unfold segments?
  by_cases hempty : trim text = ""
  · simp only [hempty, String.isEmpty_iff, if_true, Option.some.injEq, true_and, ne_eq, not_true_eq_false,
      false_and, or_false]
    exact eq_comm
  · simp only [String.isEmpty_iff, hempty, if_false, false_and, false_or, ne_eq, not_false_eq_true, true_and]
    split
    · rename_i hall
      simp only [List.all_eq_true, hok] at hall
      rw [Option.some.injEq]
      exact ⟨fun h => ⟨h ▸ hall, h.symm⟩, fun h => h.2.symm⟩
    · rename_i hall
      simp only [List.all_eq_true, hok] at hall
      exact ⟨fun h => absurd h (by simp), fun h => absurd (h.2 ▸ h.1) hall⟩

theorem segments_eq_ok_iff {text : String} {segs : List String} :
    segments text = .ok segs ↔ segments? text = some segs := by
  unfold segments
  split <;> simp_all

theorem isPart_of_segments {text : String} {segs : List String} (h : segments text = .ok segs) :
    ∀ s ∈ segs, IsPart s := by
  intro s hs
  rcases segments?_eq_some_iff.1 (segments_eq_ok_iff.1 h) with ⟨-, rfl⟩ | ⟨-, hall, heq⟩
  · cases hs
  · have haccepted := hall s hs
    rw [heq] at hs
    obtain ⟨part, hpart, rfl⟩ := List.mem_map.1 hs
    refine ⟨haccepted, trim_eq_self (fun c hc => head?_trim hc) fun c hc => getLast?_trim hc,
      fun hcolons => whole_of_mem hpart (hcolons.trans ?_)⟩
    obtain ⟨b, b', hb, -⟩ := exists_trim (.ofList part)
    exact ⟨b, b', by rw [← hb, String.toList_ofList]⟩

/-! ## Parts joined -/

section

variable {segs : List String}

/-- A joined text starts as its first part does. -/
theorem head?_join {m s : String} (hs : s.toList ≠ []) (ss : List String) :
    (m.intercalate (s :: ss)).toList.head? = s.toList.head? := by
  obtain ⟨c, cs, hc⟩ := List.exists_cons_of_ne_nil hs
  cases ss <;> simp [String.intercalate_cons_cons, hc]

/-- Nothing is trimmed off joined parts. -/
theorem trim_join (h : ∀ s ∈ segs, IsPart s) : trim ("::".intercalate segs) = "::".intercalate segs := by
  have hne : ∀ s ∈ segs, s.toList ≠ [] := fun s hs => ne_empty_of_checkName (h s hs).accepted
  refine trim_eq_self (fun c hc => ?_) fun c hc => ?_
  · cases segs with
    | nil => cases hc
    | cons s segs =>
      rw [head?_join (hne s List.mem_cons_self), ← (h s List.mem_cons_self).trimmed] at hc
      exact head?_trim hc
  · rcases List.eq_nil_or_concat' segs with rfl | ⟨init, s, rfl⟩
    · cases hc
    · have hs : s ∈ init ++ [s] := by simp
      rw [getLast?_intercalate (hne s hs), ← (h s hs).trimmed] at hc
      exact getLast?_trim hc

/-- **Joined parts are cut as they were joined**, unless one that is not the last ends with a colon. -/
theorem splitColons_join (hne : segs ≠ []) (h : ∀ s ∈ segs, IsPart s) :
    ((∀ s ∈ segs.dropLast, s.toList.getLast? ≠ some ':') →
      splitColons ("::".intercalate segs).toList = segs.map (·.toList)) ∧
    (¬ (∀ s ∈ segs.dropLast, s.toList.getLast? ≠ some ':') →
      ∃ part ∈ splitColons ("::".intercalate segs).toList, part.head? = some ':') := by
  induction segs with
  | nil => exact absurd rfl hne
  | cons s segs ih =>
    have hs := h s List.mem_cons_self
    cases segs with
    | nil => simp [splitColons_of_whole hs.whole]
    | cons s' segs =>
      have hs' := h s' (by simp)
      obtain ⟨ihcut, ihcolon⟩ := ih (by simp) fun t ht => h t (List.mem_cons_of_mem _ ht)
      have hjoin : ("::".intercalate (s :: s' :: segs)).toList =
          s.toList ++ ':' :: ':' :: ("::".intercalate (s' :: segs)).toList := by
        simp [String.intercalate_cons_cons]
      have hbehind : ("::".intercalate (s' :: segs)).toList.head? ≠ some ':' := by
        rw [head?_join (ne_empty_of_checkName hs'.accepted)]
        exact head?_ne_colon hs'.accepted
      rw [List.dropLast_cons_cons, List.forall_mem_cons, hjoin]
      by_cases hlast : s.toList.getLast? = some ':'
      · exact ⟨fun hall => absurd hlast hall.1,
          fun _ => splitColons_append_colon hs.whole hlast hbehind⟩
      · rw [splitColons_append hs.whole hlast]
        refine ⟨fun hall => by rw [ihcut hall.2]; rfl, fun hsome => ?_⟩
        obtain ⟨part, hpart, hhead⟩ := ihcolon fun hall => hsome ⟨hlast, hall⟩
        exact ⟨part, List.mem_cons_of_mem _ hpart, hhead⟩

/-- **Joined parts are read back**, unless one that is not the last ends with a colon: then they are no
namespace. -/
theorem segments_join (h : ∀ s ∈ segs, IsPart s) :
    ((∀ s ∈ segs.dropLast, s.toList.getLast? ≠ some ':') → segments ("::".intercalate segs) = .ok segs) ∧
    (¬ (∀ s ∈ segs.dropLast, s.toList.getLast? ≠ some ':') →
      segments ("::".intercalate segs) = .error (.settings (.namespace ("::".intercalate segs)))) := by
  cases hsegs : segs with
  | nil => simp [segments, segments?, trim, dropBlanks]
  | cons s rest =>
    rw [← hsegs]
    have hne : segs ≠ [] := by simp [hsegs]
    have htrim := trim_join h
    have hjoin : "::".intercalate segs ≠ "" := by
      intro hempty
      have hs := ne_empty_of_checkName (h s (by simp [hsegs])).accepted
      have hhead := head?_join (m := "::") hs rest
      rw [← hsegs, hempty] at hhead
      exact hs (List.head?_eq_none_iff.1 hhead.symm)
    obtain ⟨hcut, hcolon⟩ := splitColons_join hne h
    refine ⟨fun hlast => segments_eq_ok_iff.2 (segments?_eq_some_iff.2 (.inr
      ⟨?_, fun s hs => (h s hs).accepted, ?_⟩)), fun hlast => ?_⟩
    · rwa [htrim]
    · rw [htrim, hcut hlast, List.map_map]
      have hparts : segs.map ((fun part => trim (.ofList part)) ∘ (·.toList)) = segs.map id :=
        List.map_congr_left fun s hs => by simpa using (h s hs).trimmed
      rw [hparts, List.map_id]
    · have hnone : segments? ("::".intercalate segs) = none := by
        by_contra hsome
        obtain ⟨segs', hsegs'⟩ := Option.ne_none_iff_exists'.1 hsome
        rcases segments?_eq_some_iff.1 hsegs' with ⟨hempty, -⟩ | ⟨-, hall, heq⟩
        · exact hjoin (htrim.symm.trans hempty)
        · -- the part that starts with a colon is no accepted name
          obtain ⟨part, hpart, hhead⟩ := hcolon hlast
          rw [htrim] at heq
          have haccepted := hall _ (heq ▸ List.mem_map_of_mem hpart)
          exact head?_ne_colon haccepted (head?_trim_eq (by simpa using hhead) (by decide))
      simp only [segments, hnone, htrim]

end

end Namespace

/-! ## Words with blanks around them -/

/-- The text is the word with blanks around it. -/
def IsPadded (w : String) (cs : List Char) : Prop :=
  ∃ b b', cs = b ++ w.toList ++ b' ∧ (∀ c ∈ b, isBlank c = true) ∧ ∀ c ∈ b', isBlank c = true

/-- The text lists the words: two colons stand between them, and blanks around them. -/
inductive Lists : List String → List Char → Prop where
  | last {w : String} {cs : List Char} : IsPadded w cs → Lists [w] cs
  | more {w : String} {ws : List String} {part cs : List Char} :
    IsPadded w part → Lists ws cs → Lists (w :: ws) (part ++ ':' :: ':' :: cs)

theorem isPadded_trim (cs : List Char) : IsPadded (trim (.ofList cs)) cs := by
  obtain ⟨b, b', hs, hb, hb'⟩ := exists_trim (.ofList cs)
  exact ⟨b, b', by rwa [String.toList_ofList] at hs, hb, hb'⟩

/-- A blank ends a word, and it is no mark. -/
theorem ends_of_isBlank {c : Char} (h : isBlank c = true) :
    Scan.endsWord c = true ∧ Scan.marks.contains c = false := by
  have hn : ∀ n ∈ Scan.separatorPoints,
      Scan.endsWord (Char.ofNat n) = true ∧ Scan.marks.contains (Char.ofNat n) = false := by decide +kernel
  have hsep : Scan.isSeparator c = true := by simp [Scan.isSeparator, h]
  have := hn _ (Scan.toNat_of_isSeparator hsep)
  rwa [Char.ofNat_toNat] at this

/-- Two colons in front of a word or a blank. -/
theorem spells_colons_spaced : Spells (fun c => isBlank c || Identifier.isStart c)
    [.mark ':' true, .mark ':' false] [':', ':'] := by
  have hjoint : Spells (· == ':') [.mark ':' true] [':'] :=
    .jointMark (by decide) fun d hd => by rw [eq_of_beq hd]; decide
  refine hjoint.append (.loneMark (by decide) fun d hd => ?_) ⟨':', rfl, rfl⟩
  simp only [Bool.or_eq_true] at hd
  rcases hd with hd | hd
  · exact (ends_of_isBlank hd).2
  · exact marks_contains_eq_false hd

namespace Lists

variable {ws : List String} {cs : List Char}

theorem append_blanks (h : Lists ws cs) {b : List Char} (hb : ∀ c ∈ b, isBlank c = true) :
    Lists ws (cs ++ b) := by
  induction h with
  | last h =>
    obtain ⟨b₁, b₂, rfl, hb₁, hb₂⟩ := h
    refine .last ⟨b₁, b₂ ++ b, by simp, hb₁, fun c hc => ?_⟩
    exact (List.mem_append.1 hc).elim (hb₂ c) (hb c)
  | more hw _ ih =>
    rw [List.append_assoc, List.cons_append, List.cons_append]
    exact .more hw ih

theorem concat (h : Lists ws cs) (w : String) : Lists (ws ++ [w]) (cs ++ ':' :: ':' :: w.toList) := by
  have hlast : Lists [w] w.toList := .last ⟨[], [], by simp, by simp, by simp⟩
  induction h with
  | last h => exact .more h hlast
  | more hw _ ih =>
    rw [List.append_assoc, List.cons_append, List.cons_append]
    exact .more hw ih

/-- **A text that lists words** is cut into the tokens of the words. -/
theorem tokens (h : Lists ws cs) (hws : ∀ w ∈ ws, isIdentifier w = true) :
    Scans [] cs (flatAll (namesTokens ws)) ∧
      ∃ c, cs.head? = some c ∧ (isBlank c || Identifier.isStart c) = true := by
  have hpadded : ∀ {w : String} {part rest : List Char} {ls : List Lexeme}, isIdentifier w = true →
      IsPadded w part → (∀ c ∈ rest.head?, Scan.endsWord c = true) → Scans [] rest ls →
      Scans [] (part ++ rest) (.word w :: ls) ∧
        ∃ c, (part ++ rest).head? = some c ∧ (isBlank c || Identifier.isStart c) = true := by
    rintro w part rest ls hw ⟨b, b', rfl, hb, hb'⟩ hrest hs
    have hsep : ∀ {b : List Char}, (∀ c ∈ b, isBlank c = true) → ∀ c ∈ b, Scan.isSeparator c = true :=
      fun hb c hc => by simp [Scan.isSeparator, hb c hc]
    constructor
    · rw [List.append_assoc, List.append_assoc]
      refine .blanks (hsep hb) (.word hw (fun c hc => ?_) (.blanks (hsep hb') hs))
      cases b' with
      | nil => exact hrest c hc
      | cons d b' =>
        obtain rfl := Option.some.inj hc
        exact (ends_of_isBlank (hb' d List.mem_cons_self)).1
    · obtain ⟨c, tail, hc, hstart⟩ := Scan.head_identifier hw
      cases b with
      | nil => exact ⟨c, by rw [hc]; rfl, by simp [hstart]⟩
      | cons d b => exact ⟨d, rfl, by simp [hb d List.mem_cons_self]⟩
  induction h with
  | last h =>
    have hnone : ∀ c ∈ ([] : List Char).head?, Scan.endsWord c = true := by simp
    have := hpadded (hws _ List.mem_cons_self) h hnone .nil
    rwa [List.append_nil] at this
  | more hw hrest ih =>
    obtain ⟨hscans, hhead⟩ := ih fun v hv => hws v (List.mem_cons_of_mem _ hv)
    have hcolons := spells_colons_spaced [] _ _ hhead hscans
    have := hpadded (hws _ List.mem_cons_self) hw (by simp; decide) hcolons
    rename_i w ws part cs
    have htokens : flatAll (namesTokens (w :: ws)) = .word w :: (flatAll [.mark ':' true, .mark ':' false] ++
        flatAll (namesTokens ws)) := by
      cases hrest <;> rfl
    rwa [htokens]

end Lists

namespace Namespace

/-- What a text is cut into is what it lists. -/
theorem lists_splitColons (cs : List Char) :
    Lists ((splitColons cs).map fun part => trim (.ofList part)) cs := by
  have hlists : ∀ parts : List (List Char), parts ≠ [] →
      Lists (parts.map fun part => trim (.ofList part)) ([':', ':'].intercalate parts) := by
    intro parts hne
    induction parts with
    | nil => exact absurd rfl hne
    | cons part parts ih =>
      cases parts with
      | nil => simpa using Lists.last (isPadded_trim part)
      | cons part' parts =>
        rw [List.intercalate_cons_cons, List.append_assoc]
        exact .more (isPadded_trim part) (ih (by simp))
  have hjoin : [':', ':'].intercalate (splitColons cs) = cs := by
    fun_induction splitColons cs with
    | case1 => rfl
    | case2 rest ih =>
      obtain ⟨part, parts, hrest⟩ := List.exists_cons_of_ne_nil (splitColons_ne_nil rest)
      rw [hrest, List.intercalate_cons_cons, ← hrest, ih]
      rfl
    | case3 c rest _ hnil => exact absurd hnil (splitColons_ne_nil rest)
    | case4 c rest _ part parts hrest ih =>
      rw [hrest] at ih
      rw [← ih]
      cases parts <;> simp [List.intercalate_cons_cons]
  have := hlists _ (splitColons_ne_nil cs)
  rwa [hjoin] at this

end Namespace

/-! ## Types in a namespace -/

section

variable {text n : String} {segs : List String}

theorem isDeclared_of_isPlain (h : ∀ s ∈ n :: segs, IsPlain s) : TypePath.IsDeclared ⟨segs, n⟩ :=
  ⟨fun m hm => (h m (List.mem_cons_of_mem _ hm)).isModuleName, (h n List.mem_cons_self).isItemName⟩

/-- Behind a text without modules, two colons and a name denote the type of that name. -/
theorem parse_unnested (htext : trim text = "") (hn : IsPlain n) :
    TypePath.parse (text ++ "::" ++ n) = some ⟨[], n⟩ := by
  obtain ⟨b, b', htrim, hb, hb'⟩ := exists_trim text
  have hword := hn.isIdentifier
  have hscans : Scans [] (n.toList ++ []) [.word n] := .word hword (by simp) .nil
  rw [List.append_nil] at hscans
  obtain ⟨c, hc, hstart⟩ := startsWord_word hword
  have hall := spells_colons_spaced [] _ _ ⟨c, hc, by simp [hstart]⟩ hscans
  have hbare : trim (text ++ "::" ++ n) = .ofList (':' :: ':' :: n.toList) := by
    refine trim_of_blanks (b := b ++ b') ?_ (fun c hc => ?_) (fun c hc => ?_) fun c hc => ?_
    · rw [htext] at htrim
      simp [htrim]
    · exact (List.mem_append.1 hc).elim (hb c) (hb' c)
    · obtain rfl := Option.some.inj hc
      decide
    · obtain ⟨d, cs, hd, -⟩ := Scan.head_identifier hword
      rw [hd, List.getLast?_cons_cons, List.getLast?_cons_cons, ← hd] at hc
      exact isBlank_of_mem_identifier hword (List.mem_of_getLast? hc)
  have htokens : tokens? (trim (text ++ "::" ++ n)) = some [.mark ':' true, .mark ':' false, .word n] := by
    rw [hbare]
    refine tokens?_of_unmarked (by simp) ?_
    rw [String.toList_ofList]
    exact hall
  have hsegment : TypePath.isSegment n = true := by simp [TypePath.isSegment, hn.not_isReserved]
  have hcrate : TypePath.dropCrate [n] = [n] := by
    refine TypePath.dropCrate_of_ne fun hhead => ?_
    obtain rfl := Option.some.inj hhead
    exact absurd hn.not_isReserved (by decide)
  simp [TypePath.parse, htokens, TypePath.rootedWords?, TypePath.words?, hsegment, hcrate,
    TypePath.ofSegments?]

/-- **Behind a namespace**, two colons and a name denote the type of that name in its modules. -/
theorem parse_namespace (h : Namespace.segments text = .ok segs) (hplain : ∀ s ∈ n :: segs, IsPlain s) :
    TypePath.parse (text ++ "::" ++ n) = some ⟨segs, n⟩ := by
  have hn := hplain n List.mem_cons_self
  rcases Namespace.segments?_eq_some_iff.1 (Namespace.segments_eq_ok_iff.1 h) with
    ⟨htext, rfl⟩ | ⟨htext, -, hsegs⟩
  · exact parse_unnested htext hn
  obtain ⟨b, b', htrim, hb, hb'⟩ := exists_trim text
  have hdeclared := isDeclared_of_isPlain hplain
  have hwords : ∀ w ∈ segs ++ [n], isIdentifier w = true := fun w hw =>
    isIdentifier_of_isPathName (hdeclared.isPathName w hw)
  have hlists : Lists segs (trim text).toList := hsegs ▸ Namespace.lists_splitColons _
  obtain ⟨hscans, c, hc, hhead⟩ := ((hlists.append_blanks hb').concat n).tokens hwords
  -- the text starts with its first word, since nothing of it is trimmed off in front
  have hfirst : (trim text).toList.head? = some c := by
    cases hcs : (trim text).toList with
    | nil => exact absurd (String.toList_injective hcs) htext
    | cons d cs =>
      rw [hcs] at hc
      exact hc
  have hbare : trim (text ++ "::" ++ n) =
      .ofList ((trim text).toList ++ b' ++ ':' :: ':' :: n.toList) := by
    refine trim_of_blanks (b := b) (by simp [htrim]) hb (fun d hd => ?_) fun d hd => ?_
    · obtain rfl := Option.some.inj (hd.symm.trans hc)
      exact head?_trim hfirst
    · obtain ⟨e, cs, he, -⟩ := Scan.head_identifier hn.isIdentifier
      rw [List.getLast?_append, List.getLast?_cons_cons, he, List.getLast?_cons_cons, ← he] at hd
      cases hlast : n.toList.getLast? with
      | none => simp [he] at hlast
      | some x =>
        rw [hlast] at hd
        obtain rfl := Option.some.inj hd
        exact isBlank_of_mem_identifier hn.isIdentifier (List.mem_of_getLast? hlast)
  have hstart : Identifier.isStart c = true := by simpa [head?_trim hfirst] using hhead
  have htokens : tokens? (trim (text ++ "::" ++ n)) = some (namesTokens (segs ++ [n])) := by
    rw [hbare]
    refine tokens?_of_scans ?_ ?_
    · rw [String.toList_ofList]
      exact ⟨c, hc, hstart⟩
    · rw [String.toList_ofList]
      exact hscans
  have hsegments : ∀ w ∈ segs ++ [n], TypePath.isSegment w = true := fun w hw =>
    isSegment_of_isPathName (hdeclared.isPathName w hw)
  have hcrate : TypePath.dropCrate (segs ++ [n]) = segs ++ [n] :=
    TypePath.dropCrate_of_ne fun hhead => hdeclared.ne_crate "crate" (List.mem_of_mem_head? hhead) rfl
  rw [TypePath.parse_of_tokens (List.append_ne_nil_of_right_ne_nil _ (by simp)) hsegments htokens, hcrate]
  exact TypePath.ofSegments?_segments ⟨segs, n⟩

/-- **A type that was made** in accepted modules has plain names only, and the catalog resolves its full
name. -/
theorem serve_create_resolves {f : Foundry} {w : World} {a : Answer} {t : Foundry × World}
    (hmodules : f.modules = segs) (haccepted : ∀ s ∈ segs, checkName s = .ok ())
    (hserve : (Request.create ⟨n⟩).serve (f, w) = (.ok a, t)) :
    a.path = ⟨segs, n⟩ ∧ (∀ s ∈ n :: segs, IsPlain s) ∧ t.1.catalog.resolve a.path = some a.path := by
  obtain ⟨name, source, hprepares, hdone⟩ := Request.serve_ok hserve
  obtain ⟨p, handle, -, hhandle, hf⟩ := hdone.admitted
  obtain ⟨-, hpath, -⟩ := handle_of_find? hhandle
  have hresolve : t.1.catalog.resolve a.path = some a.path := by
    rw [hf, Catalog.resolve_eq_some_iff]
    exact ⟨rfl, .inr (Catalog.names_register.2 (.inl hpath.symm))⟩
  have hplanned : a.path = ⟨segs, n⟩ ∧ checkName n = .ok () ∧ newType n segs = .ok source := by
    generalize a.path = path at hprepares
    cases hprepares with
    | create hcheck hsource =>
      exact ⟨hmodules ▸ rfl, Request.checkName_of_requireName hcheck, hmodules ▸ hsource⟩
  obtain ⟨hfull, hcheck, hsource⟩ := hplanned
  refine ⟨hfull, ?_, hresolve⟩
  by_contra hplain
  have hchecked := newType_of_checked (List.forall_mem_cons.2 ⟨hcheck, haccepted⟩)
  rw [hchecked.2 (by simpa only [not_forall, exists_prop] using hplain)] at hsource
  cases hsource

/-- **A namespace and the full names in it** are read alike. The modules that a text lists are listed by
their names joined, just if no name but the last ends with a colon, which a plain name never does; otherwise
the names joined are no namespace. If the modules and a name are plain, the text with two colons and the name
behind it, whatever its blanks are, denotes the type of that name in the modules, and so does the full name
as it is shown. Every type that was made in the modules is found under that text. -/
theorem Namespace.segments_agree (h : Namespace.segments text = .ok segs) :
    (Namespace.segments ("::".intercalate segs) = .ok segs ↔
      ∀ s ∈ segs.dropLast, s.toList.getLast? ≠ some ':') ∧
    (Namespace.segments ("::".intercalate segs) = .ok segs ∨ Namespace.segments ("::".intercalate segs) =
      .error (.settings (.namespace ("::".intercalate segs)))) ∧
    ((∀ s ∈ segs, IsPlain s) → Namespace.segments ("::".intercalate segs) = .ok segs) ∧
    (∀ n, (∀ s ∈ n :: segs, IsPlain s) → TypePath.parse (text ++ "::" ++ n) = some ⟨segs, n⟩ ∧
      TypePath.parse (TypePath.display ⟨segs, n⟩) = some ⟨segs, n⟩) ∧
    ∀ (f : Foundry) (w : World) (n : String) (a : Answer) (t : Foundry × World), f.modules = segs →
      (Request.create ⟨n⟩).serve (f, w) = (.ok a, t) → a.path = ⟨segs, n⟩ ∧
        (TypePath.parse (text ++ "::" ++ n)).bind t.1.catalog.resolve = some a.path := by
  have hparts := Namespace.isPart_of_segments h
  obtain ⟨hback, hlost⟩ := Namespace.segments_join hparts
  refine ⟨⟨fun hjoin => ?_, hback⟩, ?_, fun hplain => hback fun s hs => ?_, fun n hplain => ⟨?_, ?_⟩,
    fun f w n a t hmodules hserve => ?_⟩
  · by_contra hlast
    rw [hlost hlast] at hjoin
    cases hjoin
  · exact (em _).imp hback hlost
  · intro hlast
    have hword := (hplain s ((List.dropLast_sublist _).subset hs)).isIdentifier
    exact not_mem_identifier hword (by decide) (by decide) (by decide) (List.mem_of_getLast? hlast)
  · exact parse_namespace h hplain
  · exact TypePath.parse_display (isDeclared_of_isPlain hplain)
  · obtain ⟨hpath, hplain, hresolve⟩ :=
      serve_create_resolves hmodules (fun s hs => (hparts s hs).accepted) hserve
    exact ⟨hpath, by rw [parse_namespace h hplain, ← hpath]; exact hresolve⟩

/-- A namespace with other blanks than the space, and a type that is made in another. -/
theorem Namespace.segments_agree_blanks :
    Namespace.segments " models\u2003::\u00a0generated" = .ok ["models", "generated"] ∧
      TypePath.parse " models\u2003::\u00a0generated::Employee" =
        some ⟨["models", "generated"], "Employee"⟩ ∧
      Namespace.segments "m\u3000" = .ok ["m"] ∧
      ∃ t : Foundry × World, (Request.create ⟨"T"⟩).serve (.fresh, .fresh) =
          (.ok (.created ⟨⟨["m"], "T"⟩, "units/T.rs"⟩), t) ∧
        (TypePath.parse "m\u3000::T").bind t.1.catalog.resolve = some ⟨["m"], "T"⟩ := by
  have hsegs : Namespace.segments " models\u2003::\u00a0generated" = .ok ["models", "generated"] := by
    decide +kernel
  have hm : Namespace.segments "m\u3000" = .ok ["m"] := by decide +kernel
  have hplain : ∀ s ∈ ["Employee", "models", "generated"], IsPlain s := by
    intro s hs
    have hall : ∀ s ∈ ["Employee", "models", "generated"],
        checkName s = .ok () ∧ isIdentifier s = true := by decide +kernel
    exact ⟨(hall s hs).1, tokens?_word (hall s hs).2⟩
  obtain ⟨t, hserve⟩ := Foundry.serve_fresh
  obtain ⟨-, -, -, hparse, -⟩ := Namespace.segments_agree hsegs
  obtain ⟨-, -, -, -, hmade⟩ := Namespace.segments_agree hm
  exact ⟨hsegs, (hparse "Employee" hplain).1, hm, t, hserve, (hmade _ _ _ _ _ rfl hserve).2⟩

/-- **Not every namespace is read back**: a part that ends in a line comment can end with a colon. -/
theorem Namespace.segments_join_ne :
    Namespace.segments "a//: :: b" = .ok ["a//:", "b"] ∧ "::".intercalate ["a//:", "b"] = "a//:::b" ∧
      Namespace.segments "a//:::b" = .error (.settings (.namespace "a//:::b")) :=
  ⟨by decide +kernel, rfl, by decide +kernel⟩

end

end TypeFoundry
