import TypeFoundry.Proofs.Admitting

/-!
# Crates stay apart

The name of a crate is made of a label, which can be any text, and of an identity. What snake case leaves
of a label holds no separator, no dot and no other sign (`isSafe_crateName`), and the identity behind it can
be read off the name (`crateName_inj`). So the directory of a crate stands right in the directory for builds,
and crates of two identities have two directories, whatever their labels are. `builds_apart` says this of the
names and of all that a run of compilations hands to the toolchain and writes.
-/

set_option autoImplicit false

namespace TypeFoundry

open Files Files.Disk

/-! ## Identities -/

namespace Text

theorem hexDigit_inj : ∀ m < 16, ∀ n < 16, hexDigit m = hexDigit n → m = n := by decide

/-- The digits determine what is left of the number. -/
theorem hexDigits_inj {count m n : Nat} (h : hexDigits count m = hexDigits count n) :
    m % Nat.pow 16 count = n % Nat.pow 16 count := by
  simp only [Nat.pow_eq]
  induction count generalizing m n with
  | zero => simp [Nat.mod_one]
  | succ count ih =>
    obtain ⟨hfront, hlast⟩ := List.append_inj' h rfl
    have hdigit : m % 16 = n % 16 :=
      hexDigit_inj _ (Nat.mod_lt _ (by decide)) _ (Nat.mod_lt _ (by decide)) (List.singleton_inj.1 hlast)
    rw [Nat.pow_succ, Nat.mul_comm (16 ^ count) 16, Nat.mod_mul, Nat.mod_mul, ih hfront, hdigit]

end Text

/-- Different identities are written differently. -/
theorem ModuleId.simple_inj {id id' : ModuleId} (h : id.simple = id'.simple) : id = id' := by
  have hdigits := Text.hexDigits_inj (String.ofList_injective h)
  have hbound : ∀ id : ModuleId, id.bits.toNat < Nat.pow 16 32 := fun id => id.bits.isLt
  rw [Nat.mod_eq_of_lt (hbound id), Nat.mod_eq_of_lt (hbound id')] at hdigits
  cases id
  cases id'
  simpa using BitVec.eq_of_toNat_eq hdigits

/-! ## Labels in snake case -/

namespace Text

/-- A small letter, a digit, an underscore, or no sign of ASCII at all. -/
def IsSafe (c : Char) : Prop := c.toNat < 128 → c.isLower = true ∨ c.isDigit = true ∨ c = '_'

instance (c : Char) : Decidable (IsSafe c) := inferInstanceAs (Decidable (_ → _))

/-- Words are cut out of the run, which starts with what has been read of the first word. -/
theorem mem_cutWords {k : WordCase} {word cs w : List Char} {c : Char} (h : w ∈ cutWords k word cs)
    (hc : c ∈ w) : c ∈ word ∨ c ∈ cs := by
  fun_induction cutWords k word cs with
  | case1 => cases h
  | case2 k word d =>
    obtain rfl := List.mem_singleton.1 h
    simpa using hc
  | case3 k word d e cs hcut ih =>
    rcases List.mem_cons.1 h with rfl | h
    · exact (List.mem_append.1 hc).imp_right fun hc => by simp_all
    · exact .inr (List.mem_cons_of_mem _ ((ih h).resolve_left List.not_mem_nil))
  | case4 k word d e cs _ hcut ih =>
    rcases List.mem_cons.1 h with rfl | h
    · exact .inl hc
    · rcases ih h with hc | hc
      · exact .inr (by simp_all)
      · exact .inr (List.mem_cons_of_mem _ hc)
  | case5 k word d e cs _ _ ih =>
    rcases ih h with hc | hc
    · exact (List.mem_append.1 hc).imp_right fun hc => by simp_all
    · exact .inr (List.mem_cons_of_mem _ hc)

/-- The small forms of the capitals in the table are characters, and small letters where they are in ASCII. -/
theorem capitalRuns_safe : ∀ r ∈ capitalRuns,
    97 ≤ (r.first : Int) + r.shift ∧ ((r.first : Int) + r.shift < 128 → (r.last : Int) + r.shift ≤ 122) ∧
      ((r.last : Int) + r.shift < 0xd800 ∨
        0xdfff < (r.first : Int) + r.shift ∧ (r.last : Int) + r.shift < 0x110000) := by
  decide +kernel

theorem isSafe_lower_ascii :
    ∀ n < 128, (Char.ofNat n).isAlphanum = true → IsSafe (Char.ofNat n).toLower := by
  decide +kernel

theorem isLower_ofNat : ∀ n < 123, 97 ≤ n → (Char.ofNat n).isLower = true := by decide

theorem toNat_ofNat_valid {n : Nat} (h : n.isValidChar) : (Char.ofNat n).toNat = n := by
  unfold Char.ofNat
  rw [dif_pos h]
  rfl

/-- **The small form** of a letter or a number is safe. -/
theorem isSafe_lower {c d : Char} (hc : isAlphanumeric c = true) (hd : d ∈ lower c) : IsSafe d := by
  unfold lower at hd
  unfold isAlphanumeric at hc
  by_cases hascii : c.toNat < 128
  · rw [if_pos hascii] at hc hd
    have hlower := isSafe_lower_ascii c.toNat hascii
    rw [Char.ofNat_toNat] at hlower
    rw [List.mem_singleton.1 hd]
    exact hlower hc
  · rw [if_neg hascii] at hd
    split at hd
    · revert d
      simp only [List.mem_cons, List.not_mem_nil, or_false, forall_eq_or_imp, forall_eq]
      decide
    · split at hd
      · rename_i r hr
        -- the character moves along with the first of its run
        obtain ⟨hlow, hsmall, hvalid⟩ := capitalRuns_safe r (List.mem_of_find?_eq_some hr)
        have hcovers := List.find?_some hr
        simp only [CapitalRun.covers, Bool.and_eq_true, decide_eq_true_eq] at hcovers
        rw [List.mem_singleton.1 hd]
        generalize hn : ((c.toNat : Int) + r.shift).toNat = n
        intro hlt
        rw [toNat_ofNat_valid (by unfold Nat.isValidChar; omega)] at hlt
        exact .inl (isLower_ofNat n (by omega) (by omega))
      · rw [List.mem_singleton.1 hd]
        exact fun h => absurd h hascii

theorem isSafe_lowerWord {w : List Char} (hw : ∀ c ∈ w, isAlphanumeric c = true) :
    ∀ d ∈ lowerWord w, IsSafe d := by
  fun_induction lowerWord w with
  | case1 => simp
  | case2 =>
    rw [List.forall_mem_singleton]
    decide
  | case3 c cs _ ih =>
    obtain ⟨hc, hcs⟩ := List.forall_mem_cons.1 hw
    rw [List.forall_mem_append]
    exact ⟨fun d => isSafe_lower hc, ih hcs⟩

/-- **Snake case** leaves safe characters, whatever the text. -/
theorem isSafe_snakeCase (s : String) : ∀ c ∈ (snakeCase s).toList, IsSafe c := by
  intro c hc
  by_contra hunsafe
  refine not_mem_intercalate ?_ (fun word hword hmem => hunsafe ?_) hc
  · rintro h
    obtain rfl : c = '_' := by simpa using h
    exact hunsafe (by decide)
  · obtain ⟨w, hw, rfl⟩ := List.mem_map.1 hword
    obtain ⟨run, hrun, hcut⟩ := List.mem_flatMap.1 hw
    have hall := List.all_eq_true.1 (List.mem_filter.1 hrun).2
    rw [String.toList_ofList] at hmem
    refine isSafe_lowerWord (fun d hd => hall d ?_) c hmem
    exact (mem_cutWords hcut hd).resolve_left List.not_mem_nil

end Text

/-! ## Names of crates -/

open Text in
/-- **The name of a crate** has safe characters only. -/
theorem isSafe_crateName (label : String) (id : ModuleId) : ∀ c ∈ (crateName label id).toList, IsSafe c := by
  have hdigits : ∀ count n, ∀ c ∈ hexDigits count n, IsSafe c := by
    have hdigit : ∀ n < 16, IsSafe (hexDigit n) := by decide
    intro count
    induction count with
    | zero => simp [hexDigits]
    | succ count ih =>
      intro n
      rw [hexDigits, List.forall_mem_append, List.forall_mem_singleton]
      exact ⟨ih _, hdigit _ (Nat.mod_lt _ (by decide))⟩
  have hstart : ∀ c ∈ "forge_".toList, IsSafe c := Source.Scan.forall_mem_of_all (by decide)
  simp only [crateName, String.toList_append, List.forall_mem_append]
  refine ⟨⟨⟨hstart, isSafe_snakeCase label⟩, Source.Scan.forall_mem_of_all (by decide)⟩, ?_⟩
  simpa [ModuleId.simple] using hdigits 32 id.bits.toNat

/-- **The identity** can be read off the name of a crate. -/
theorem crateName_inj {label label' : String} {id id' : ModuleId}
    (h : crateName label id = crateName label' id') : id = id' := by
  have hlist := congrArg String.toList h
  simp only [crateName, String.toList_append] at hlist
  have hsimple := List.append_inj_right' hlist ((length_simple id).trans (length_simple id').symm)
  exact ModuleId.simple_inj (String.toList_inj.1 hsimple)

theorem isFileName_crateName (label : String) (id : ModuleId) : IsFileName (crateName label id) := by
  have hsuffix : id.simple.toList <:+ (crateName label id).toList := by
    rw [crateName, String.toList_append]
    exact List.suffix_append _ _
  obtain ⟨hempty, hdot, hup⟩ := ne_dots (by rw [length_simple]; decide) hsuffix
  refine ⟨hempty, hdot, hup, fun h => ?_⟩
  exact absurd (isSafe_crateName label id '/' h) (by decide)

/-- The file of a compiled module stands in the directory of its crate. -/
theorem isFileName_artifact (label : String) (id : ModuleId) :
    IsFileName ("lib" ++ crateName label id ++ ".so") := by
  have hsuffix : ".so".toList <:+ ("lib" ++ crateName label id ++ ".so").toList := by
    rw [String.toList_append]
    exact List.suffix_append _ _
  obtain ⟨hempty, hdot, hup⟩ := ne_dots (by decide) hsuffix
  refine ⟨hempty, hdot, hup, ?_⟩
  simp [(isFileName_crateName label id).noSlash]

namespace Compiler

/-! ## Directories of crates -/

/-- The directory of the crate. -/
abbrev crateDir (c : Compiler) (name : String) : String := join c.buildDir name

/-- The file with the text of the crate. -/
abbrev crateFile (c : Compiler) (name : String) : String := join (c.crateDir name) "lib.rs"

theorem place_crateDir (c : Compiler) (cwd : Location) (label : String) (id : ModuleId) :
    place cwd (c.crateDir (crateName label id)) = place cwd c.buildDir ++ [crateName label id] :=
  place_join (isFileName_crateName label id) cwd c.buildDir

theorem place_crateFile (c : Compiler) (cwd : Location) (label : String) (id : ModuleId) :
    place cwd (c.crateFile (crateName label id)) =
      place cwd c.buildDir ++ [crateName label id, "lib.rs"] := by
  have hlib : IsFileName "lib.rs" := ⟨by decide, by decide, by decide, by decide⟩
  rw [place_join hlib, place_crateDir, List.append_assoc]
  rfl

theorem place_artifact (c : Compiler) (cwd : Location) (label : String) (id : ModuleId) :
    place cwd (artifactPath (c.crateDir (crateName label id)) (crateName label id)) =
      place cwd c.buildDir ++ [crateName label id, "lib" ++ crateName label id ++ ".so"] := by
  rw [artifactPath, place_join (isFileName_artifact label id), place_crateDir, List.append_assoc]
  rfl

/-! ## Runs of compilations -/

/-- The crate of the identity, as it is handed to the toolchain: under its name, in a file in its own
directory, and with that directory for the module. -/
def Hands (c : Compiler) (id : ModuleId) (i : Invocation) : Prop :=
  ∃ label, i.crate = crateName label id ∧
    i.arguments = c.arguments i.crate (c.crateDir i.crate) (c.crateFile i.crate)

/-- Since the earlier world, crates of identities that were drawn in between were handed to the toolchain,
each identity once at most, and the files of their texts are all that was written. -/
structure Builds (c : Compiler) (w w' : World) : Prop where
  leads : w.Leads w'
  handed : ∃ log : List (Nat × Invocation), w'.invocations = w.invocations ++ log.map Prod.snd ∧
    (∀ e ∈ log, w.drawn ≤ e.1 ∧ e.1 < w'.drawn ∧ c.Hands (w.ids e.1) e.2) ∧
    log.Pairwise fun e e' => e.1 < e'.1
  written : ∀ loc, (∀ k label, w.drawn ≤ k → k < w'.drawn →
      loc ≠ place w.cwd c.buildDir ++ [crateName label (w.ids k), "lib.rs"]) →
    w'.disk.file? loc = w.disk.file? loc

namespace Builds

variable {c : Compiler} {w w₁ w₂ : World}

/-- Nothing is built where nothing is handed over and no file is written. -/
theorem of_quiet (hleads : w.Leads w₁) (hquiet : w₁.invocations = w.invocations)
    (hfiles : SameFiles (fun _ => True) w.disk w₁.disk) : c.Builds w w₁ :=
  ⟨hleads, ⟨[], by simp [hquiet], by simp, .nil⟩, fun loc _ => hfiles loc trivial⟩

theorem refl (c : Compiler) (w : World) : c.Builds w w := .of_quiet (.refl w) rfl (.refl _ _)

theorem trans (h : c.Builds w w₁) (h' : c.Builds w₁ w₂) : c.Builds w w₂ := by
  obtain ⟨log, hinvocations, hlog, hsorted⟩ := h.handed
  obtain ⟨log', hinvocations', hlog', hsorted'⟩ := h'.handed
  have hbefore := h.leads.drawn
  have hafter := h'.leads.drawn
  rw [h.leads.ids] at hlog'
  refine ⟨h.leads.trans h'.leads, ⟨log ++ log', ?_, ?_, ?_⟩, fun loc hloc => ?_⟩
  · rw [hinvocations', hinvocations, List.map_append, List.append_assoc]
  · rw [List.forall_mem_append]
    refine ⟨fun e he => ?_, fun e he => ?_⟩
    · obtain ⟨hlow, hhigh, hhands⟩ := hlog e he
      exact ⟨hlow, by omega, hhands⟩
    · obtain ⟨hlow, hhigh, hhands⟩ := hlog' e he
      exact ⟨by omega, hhigh, hhands⟩
  · refine List.pairwise_append.2 ⟨hsorted, hsorted', fun e he e' he' => ?_⟩
    have := hlog e he
    have := hlog' e' he'
    omega
  · rw [h'.written loc fun k label hlow hhigh => ?_, h.written loc fun k label hlow hhigh => ?_]
    · exact hloc k label hlow (by omega)
    · rw [h.leads.cwd, h.leads.ids]
      exact hloc k label (by omega) hhigh

/-- One identity was drawn, and the crate of that identity is all that was handed over and written. -/
theorem of_crate (label : String) (hleads : w.Leads w₁) (hdrawn : w₁.drawn = w.drawn + 1)
    (hhanded : w₁.invocations = w.invocations ∨
      ∃ i, c.Hands (w.ids w.drawn) i ∧ w₁.invocations = w.invocations ++ [i])
    (hfiles : SameFiles (· ≠ place w.cwd (c.crateFile (crateName label (w.ids w.drawn)))) w.disk w₁.disk) :
    c.Builds w w₁ := by
  refine ⟨hleads, ?_, fun loc hloc => hfiles loc ?_⟩
  · rcases hhanded with hquiet | ⟨i, hi, hinvocations⟩
    · exact ⟨[], by simp [hquiet], by simp, .nil⟩
    · exact ⟨[(w.drawn, i)], hinvocations, by simp [hdrawn, hi], List.pairwise_singleton _ _⟩
  · rw [place_crateFile]
    exact hloc w.drawn label (Nat.le_refl _) (by omega)

end Builds

/-- **A compilation** hands over at most one crate, of the identity that it draws, and writes the text of
that crate only. The module that it makes is beside the text. -/
theorem build_builds (c : Compiler) (a : Arena) (units : List String) (label : String) (origin : Origin)
    {w : World} :
    Ends (c.build a units label origin) w
      (fun p w' => c.Builds w w' ∧
        p.artifact = artifactPath (c.crateDir (crateName label p.id)) (crateName label p.id))
      fun _ w' => c.Builds w w' := by
  refine (Action.ofExcept_ends _).bind ?_ ?_
  · rintro targets _ ⟨-, rfl⟩
    rename_i w
    refine Action.freshId_ends.bind ?_ (fun _ _ h => h.elim)
    rintro _ _ ⟨rfl, rfl⟩
    refine (Action.ensureDirectory_ends _).bind ?_ ?_
    · rintro _ _ ⟨d, n, hd, rfl⟩
      have hd := hd.mono (Q := (· ≠ place w.cwd (c.crateFile (crateName label (w.ids w.drawn)))))
        fun _ _ => trivial
      dsimp only
      split
      · refine (ends_throw (Q := fun _ _ => False) ?_).bind (fun _ _ h => h.elim) (fun _ _ h => h)
        exact .of_crate label ⟨rfl, rfl, rfl, Nat.le_succ _⟩ rfl (.inl rfl) hd
      · refine (Action.writeFile_ends _ _).bind ?_ ?_
        · rintro _ _ ⟨d', n', hwrite, rfl⟩
          have hd' := hd.trans (sameFiles_write hwrite)
          refine ((invoke_ends c _ _).and (invoke_hands c _ _)).bind ?_ ?_
          · rintro loaded _ ⟨⟨-, rfl⟩, -⟩
            split
            · exact ends_throw (.of_crate label ⟨rfl, rfl, rfl, Nat.le_succ _⟩ rfl
                (.inr ⟨_, ⟨label, rfl, rfl⟩, rfl⟩) hd')
            · exact ends_pure ⟨.of_crate label ⟨rfl, rfl, rfl, Nat.le_succ _⟩ rfl
                (.inr ⟨_, ⟨label, rfl, rfl⟩, rfl⟩) hd', rfl⟩
          · rintro _ _ ⟨⟨⟨is, rfl⟩, -⟩, hhanded⟩
            exact .of_crate label ⟨rfl, rfl, rfl, Nat.le_succ _⟩ rfl
              (hhanded.imp id fun h => ⟨_, ⟨label, rfl, rfl⟩, h⟩) hd'
        · rintro _ _ ⟨d', n', cause, -, hd', rfl⟩
          exact .of_crate label ⟨rfl, rfl, rfl, Nat.le_succ _⟩ rfl (.inl rfl) (hd.trans hd')
    · rintro _ _ ⟨⟨d, n, hd, rfl⟩, -⟩
      exact .of_crate label ⟨rfl, rfl, rfl, Nat.le_succ _⟩ rfl (.inl rfl)
        (hd.mono fun _ _ => trivial)
  · rintro _ _ ⟨_, -, -, rfl⟩
    exact .refl c _

theorem compile_builds (c : Compiler) (a : Arena) (source : String) (path : TypePath) {w : World} :
    Ends (c.compile a source path) w
      (fun p w' => c.Builds w w' ∧
        p.artifact = artifactPath (c.crateDir (crateName path.name p.id)) (crateName path.name p.id))
      fun _ w' => c.Builds w w' := by
  refine (build_builds c a [source] path.name .dynamic).bind (fun p w' h => ?_) (fun _ _ h => h)
  split
  · exact ends_pure h
  · exact ends_throw h.1

namespace Operation

variable {c : Compiler} {a : Arena} {w : World}

theorem join_world (path : TypePath) (p : PendingModule) : (join a path p w).2.2 = w := by
  unfold join
  split <;> rfl

theorem compiled_builds {r : Except Halt PendingModule × World}
    {next : PendingModule → World → Outcome} (h : c.Builds w r.2)
    (hnext : ∀ p w', (next p w').2.2 = w') : c.Builds w (compiled a r next).2.2 := by
  obtain ⟨_ | p, w'⟩ := r
  · exact h
  · rw [compiled, hnext]
    exact h

/-- What an action ends in is the world that its run leaves. -/
theorem builds_run {α : Type} {x : Action α} {Q : α → World → Prop}
    (h : Ends x w (fun p w' => c.Builds w w' ∧ Q p w') fun _ w' => c.Builds w w') :
    c.Builds w (x.run w).2 := by
  generalize hrun : x.run w = r
  obtain ⟨_ | p, w'⟩ := r
  · exact h.of_error hrun
  · exact (h.of_ok hrun).1

theorem run_builds (op : Operation) : c.Builds w (op.run c a w).2.2 := by
  cases op with
  | compile source path => exact compiled_builds (builds_run (compile_builds c a source path)) fun _ _ => rfl
  | commit p path =>
    rw [run, join_world]
    exact .refl c w
  | compileAndLoad source path =>
    exact compiled_builds (builds_run (compile_builds c a source path)) fun _ _ => join_world path _
  | compileAssembly units =>
    exact compiled_builds (builds_run (build_builds c a units "assembly" .assembly)) fun _ _ => rfl

theorem runAll_builds (ops : List Operation) : c.Builds w (runAll c a w ops).2.2 := by
  induction ops generalizing a w with
  | nil => exact .refl c w
  | cons op ops ih => exact (run_builds op).trans ih

end Operation

/-- **Builds do not collide or escape.** Whatever the label, the name of a crate starts the same way and holds
no separator and no dot, so its directory stands right in the directory for builds, and the module in that.
Different identities give different names, directories and modules, whatever the labels. A module that was
compiled for a type is in the directory of its own crate. And of any run of operations, in which the
identities that are drawn differ, the crates that are handed over have different names and directories, and
no file is written but the texts of crates, each in the directory of its crate. -/
theorem builds_apart (c : Compiler) (cwd : Location) :
    (∀ label id, "forge_".toList <+: (crateName label id).toList ∧
      (∀ s ∈ ['/', '\\', '.'], s ∉ (crateName label id).toList) ∧
      place cwd (c.crateDir (crateName label id)) = place cwd c.buildDir ++ [crateName label id] ∧
      place cwd (artifactPath (c.crateDir (crateName label id)) (crateName label id)) =
        place cwd c.buildDir ++ [crateName label id, "lib" ++ crateName label id ++ ".so"]) ∧
    (∀ label label' id id', id ≠ id' → crateName label id ≠ crateName label' id' ∧
      place cwd (c.crateDir (crateName label id)) ≠ place cwd (c.crateDir (crateName label' id')) ∧
      place cwd (artifactPath (c.crateDir (crateName label id)) (crateName label id)) ≠
        place cwd (artifactPath (c.crateDir (crateName label' id')) (crateName label' id'))) ∧
    (∀ a source path w p w', (c.compile a source path).run w = (.ok p, w') → p.artifact =
      artifactPath (c.crateDir (crateName path.name p.id)) (crateName path.name p.id)) ∧
    ∀ a w ops w', (Operation.runAll c a w ops).2.2 = w' →
      (∀ k l, w.drawn ≤ k → k < l → l < w'.drawn → w.ids k ≠ w.ids l) →
      (∃ is, w'.invocations = w.invocations ++ is ∧
        (∀ i ∈ is, ∃ k, w.drawn ≤ k ∧ k < w'.drawn ∧ c.Hands (w.ids k) i) ∧
        is.Pairwise fun i j => i.crate ≠ j.crate ∧
          place cwd (c.crateDir i.crate) ≠ place cwd (c.crateDir j.crate)) ∧
      ∀ loc, w'.disk.file? loc ≠ w.disk.file? loc → ∃ k label, w.drawn ≤ k ∧ k < w'.drawn ∧
        loc = place w.cwd c.buildDir ++ [crateName label (w.ids k), "lib.rs"] := by
  have hplace := fun label id => place_crateDir c cwd label id
  have hartifact := fun label id => place_artifact c cwd label id
  have hapart : ∀ {label label' id id'}, id ≠ id' → crateName label id ≠ crateName label' id' :=
    fun hne heq => hne (crateName_inj heq)
  refine ⟨fun label id => ⟨?_, ?_, hplace label id, hartifact label id⟩,
    fun label label' id id' hne => ⟨hapart hne, ?_, ?_⟩,
    fun a source path w p w' hrun => ((compile_builds c a source path).of_ok hrun).2, ?_⟩
  · simp only [crateName, String.toList_append, List.append_assoc]
    exact List.prefix_append _ _
  · intro s hs hmem
    have hsafe := isSafe_crateName label id s hmem
    have hunsafe : ∀ c ∈ ['/', '\\', '.'], ¬ Text.IsSafe c := Source.Scan.forall_mem_of_all (by decide)
    exact hunsafe s hs hsafe
  · rw [hplace, hplace, ne_eq, List.append_right_inj, List.singleton_inj]
    exact hapart hne
  · rw [hartifact, hartifact, ne_eq, List.append_right_inj, List.cons.injEq]
    exact fun h => hapart hne h.1
  · rintro a w ops _ rfl hids
    have hbuilds := Operation.runAll_builds (c := c) (a := a) (w := w) ops
    obtain ⟨log, hinvocations, hlog, hsorted⟩ := hbuilds.handed
    refine ⟨⟨log.map Prod.snd, hinvocations, ?_, ?_⟩, fun loc hloc => ?_⟩
    · intro i hi
      obtain ⟨e, he, rfl⟩ := List.mem_map.1 hi
      exact ⟨e.1, hlog e he⟩
    · rw [List.pairwise_map]
      refine hsorted.imp_of_mem fun {e e'} he he' hlt => ?_
      obtain ⟨hlow, -, label, hlabel, -⟩ := hlog e he
      obtain ⟨-, hhigh, label', hlabel', -⟩ := hlog e' he'
      have hne := hids e.1 e'.1 hlow hlt hhigh
      rw [hlabel, hlabel', hplace, hplace, ne_eq, ne_eq, List.append_right_inj, List.singleton_inj]
      exact ⟨hapart hne, hapart hne⟩
    · by_contra hnone
      push Not at hnone
      exact hloc (hbuilds.written loc fun k label hlow hhigh => hnone k label hlow hhigh)

/-- Two labels with the same snake case, and one unit that is compiled twice. -/
theorem builds_apart_twice :
    let ops : List Operation := [.compile nodeText ⟨[], "T"⟩, .compile nodeText ⟨[], "T"⟩]
    let w' := (Operation.runAll Foundry.fresh.compiler .empty .planted ops).2.2
    Text.snakeCase "FooBar" = Text.snakeCase "foo_bar" ∧
      crateName "FooBar" ⟨0⟩ ≠ crateName "foo_bar" ⟨1⟩ ∧
      w'.invocations.map (·.crate) =
        ["forge_t_00000000000000000000000000000000", "forge_t_00000000000000000000000000000001"] ∧
      ∀ loc, w'.disk.file? loc ≠ World.planted.disk.file? loc → ∃ k label, k < 2 ∧
        loc = ["build", crateName label (World.planted.ids k), "lib.rs"] := by
  intro ops w'
  obtain ⟨-, happart, -, hrun⟩ := builds_apart Foundry.fresh.compiler []
  have hdrawn : w'.drawn = 2 := by decide +kernel
  have hids : ∀ k l, World.planted.drawn ≤ k → k < l → l < w'.drawn →
      World.planted.ids k ≠ World.planted.ids l := by
    rw [hdrawn]
    intro k l _ hlt hl
    obtain ⟨rfl, rfl⟩ : k = 0 ∧ l = 1 := by omega
    decide
  have hplace : place World.planted.cwd Foundry.fresh.compiler.buildDir = ["build"] := by decide +kernel
  refine ⟨by decide +kernel, (happart _ _ _ _ (by decide)).1, by decide +kernel, fun loc hloc => ?_⟩
  obtain ⟨k, label, -, hk, rfl⟩ := (hrun .empty .planted ops w' rfl hids).2 loc hloc
  exact ⟨k, label, hdrawn ▸ hk, congrArg (· ++ _) hplace⟩

end Compiler

end TypeFoundry
