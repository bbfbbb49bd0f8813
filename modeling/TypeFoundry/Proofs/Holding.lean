import TypeFoundry.Proofs.Collecting
import TypeFoundry.Proofs.Commuting
import TypeFoundry.Proofs.Entries

/-!
# What a store holds

A store is a map from names to texts. `Store.held` is what it holds under a name: the content of the file of
the unit, or why there is none. Saving puts the text under the name, or it fails and changes nothing that
is held (`save_holds`); the other calls change nothing, and they answer what is held, or the obstacle that they
meet (`load_answers`, `list_answers`). So in a run of calls each answer is the one of the map that the
successful saves before it lead to (`runAll_answers`), whatever else is in the directory and whatever fails.
This needs a directory that is there or that can be made, and names that the system takes: `not_map` is about
the others.
-/

set_option autoImplicit false

namespace TypeFoundry

open Files Files.Disk

namespace Store

/-- The disk is a tree, and the directory of the store is there or can be made. -/
structure Stands (s : Store) (w : World) : Prop where
  solid : w.disk.Solid w.cwd
  distinct : w.disk.Distinct
  room : w.disk.HasRoom w.cwd s.root

/-- The file of the unit has a longer name than the system takes. -/
def TooLong (name : String) : Prop := maxName < (name ++ ending).utf8ByteSize

instance (name : String) : Decidable (TooLong name) := inferInstanceAs (Decidable (_ < _))

/-- What the store holds under the name: the content of the file of the unit, or why there is none. -/
def held (s : Store) (w : World) (name : String) : Except Cause Content :=
  if '\x00' ∈ name.toList then .error .nulInName
  else if TooLong name then .error .nameTooLong
  else contentOf (w.disk.entry? (place w.cwd s.root ++ [name ++ ending]))

/-- The later world has the same current directory and meets the same obstacles, and the store stands there
and holds the same. -/
structure Keeps (s : Store) (w w' : World) : Prop where
  cwd : w'.cwd = w.cwd
  obstacles : w'.obstacles = w.obstacles
  stands : s.Stands w'
  held : s.held w' = s.held w

variable {s : Store} {w w' : World} {name : String}

namespace Keeps

theorem refl (h : s.Stands w) : s.Keeps w w := ⟨rfl, rfl, h, rfl⟩

theorem trans {w₁ w₂ : World} (h : s.Keeps w w₁) (h' : s.Keeps w₁ w₂) : s.Keeps w w₂ :=
  ⟨h'.cwd.trans h.cwd, h'.obstacles.trans h.obstacles, h'.stands, h'.held.trans h.held⟩

theorem of_counted (h : s.Stands w) (n : Nat) : s.Keeps w { w with operations := n } :=
  ⟨rfl, rfl, ⟨h.solid, h.distinct, h.room⟩, rfl⟩

end Keeps

/-- What is held depends on what stands right in the directory. -/
theorem held_congr (hcwd : w'.cwd = w.cwd)
    (h : ∀ name, w'.disk.entry? (place w.cwd s.root ++ [name ++ ending]) =
      w.disk.entry? (place w.cwd s.root ++ [name ++ ending])) : s.held w' = s.held w := by
  funext name
  rw [held, held, hcwd, h]

/-! ## Saving -/

/-- Making the directory of the store, or one around it, keeps what is held. -/
theorem Stands.mkdir (h : s.Stands w) {ps : List String} (hps : ps <+: partsOf s.root) {d : Disk}
    (hmkdir : w.disk.mkdir (startAt w.cwd s.root) ps = .ok d) (n : Nat) :
    s.Keeps w { w with disk := d, operations := n } := by
  obtain ⟨hnone, hentry⟩ := entry?_mkdir hmkdir
  obtain ⟨hsolid, hgrows⟩ := mkdir_solid h.solid (fun part hpart => isPart_of_mem (hps.subset hpart))
    (h.solid.startOf _) hmkdir
  obtain ⟨there, down, loc, hparts, hthere, hdown⟩ := h.room.way
  -- of what is there already nothing can be made
  obtain ⟨made, hmade, rfl⟩ : ∃ made, made <+: down ∧ ps = there ++ made := by
    rw [hparts] at hps
    obtain ⟨rest, rfl⟩ | ⟨made, rfl⟩ := List.prefix_or_prefix_of_prefix hps (List.prefix_append there down)
    · rw [follow_append] at hthere
      cases hdir : w.disk.follow (startAt w.cwd s.root) ps with
      | error cause => rw [hdir] at hthere; cases hthere
      | ok dir =>
        rw [← follow_eq_walk hdir, h.solid.follow (h.solid.startOf _) hdir] at hnone
        cases hnone
    · exact ⟨made, (List.prefix_append_right_inj _).1 hps, rfl⟩
  rw [(hdown.initial hmade).walk_eq hthere] at hentry
  refine ⟨rfl, rfl, ⟨hsolid, distinct_mkdir h.distinct hmkdir, h.room.ne_empty, h.room.noNul, there, down,
    loc, hparts, follow_grows hgrows hthere, hdown.down, fun qs hqs c => ?_⟩, held_congr rfl fun name => ?_⟩
  · rw [hentry]
    split
    · simp
    · exact hdown.clear qs hqs c
  · dsimp only
    rw [hentry, if_neg (hdown.ne_place_concat hparts hthere hmade _)]

theorem ensureDirectory_keeps (h : s.Stands w) :
    Ends (Action.ensureDirectory s.root) w (fun _ w' => s.Keeps w w')
      fun e w' => s.Keeps w w' ∧ ∃ cause, e = .failure (.io s.root cause) := by
  unfold Action.ensureDirectory
  split
  · exact ends_throw ⟨.refl h, _, rfl⟩
  · refine ends_get.bind ?_ (fun _ _ h => h)
    rintro _ w ⟨rfl, rfl⟩
    refine (Action.makeDirectories_keeps (R := s.Keeps w) (fun part inner hsuffix w₁ h₁ => ?_)
      (.refl h)).bind (fun r w₁ h₁ => ?_) (fun _ _ h => h.elim)
    · have hinner : (part :: inner).reverse <+: partsOf s.root := by
        rw [← List.reverse_reverse (partsOf s.root)]
        exact List.reverse_prefix.2 hsuffix
      refine (Action.change_ends _).mono ?_ (fun _ _ h => h)
      rintro r _ (⟨d, n, -, hmkdir, rfl⟩ | ⟨c, n, -, rfl⟩)
      · rw [← h₁.cwd] at hmkdir
        exact h₁.trans (h₁.stands.mkdir hinner hmkdir n)
      · exact h₁.trans (.of_counted h₁.stands n)
    · cases r with
      | ok _ => exact ends_pure h₁
      | error cause => exact ends_throw ⟨h₁, cause, rfl⟩

theorem isFileName_staging (h : '/' ∉ name.toList) :
    IsFileName ("." ++ name ++ ending ++ ".tmp") := by
  have hsuffix : ".tmp".toList <:+ ("." ++ name ++ ending ++ ".tmp").toList := by
    rw [String.toList_append]
    exact List.suffix_append _ _
  obtain ⟨hempty, hdot, hup⟩ := ne_dots (by decide) hsuffix
  exact ⟨hempty, hdot, hup, by simpa [ending] using h⟩

/-- No file in which a unit is written before is the file of a unit. -/
theorem staging_ne_unit (name other : String) : "." ++ name ++ ending ++ ".tmp" ≠ other ++ ending := by
  intro h
  have hlast := congrArg (fun t : String => t.toList.reverse.head?) h
  simp [ending] at hlast

/-- A change of what stands right in the directory leaves the store standing. -/
theorem Stands.inside (h : s.Stands w) {d : Disk} (hsolid : d.Solid w.cwd) (hgrows : w.disk.Grows d)
    (hdistinct : d.Distinct)
    (hsame : ∀ loc, (∀ name, place w.cwd s.root ++ [name] ≠ loc) → d.entry? loc = w.disk.entry? loc)
    (n : Nat) : s.Stands { w with disk := d, operations := n } := by
  obtain ⟨there, down, loc, hparts, hthere, hdown⟩ := h.room.way
  refine ⟨hsolid, hdistinct, h.room.ne_empty, h.room.noNul, there, down, loc, hparts,
    follow_grows hgrows hthere, hdown.down, fun ps hps c => ?_⟩
  rw [hsame _ (hdown.ne_place_concat hparts hthere hps)]
  exact hdown.clear ps hps c

/-- Writing a file that is not one of a unit keeps what is held. -/
theorem Stands.write (h : s.Stands w) {path file : String} {c : Content} {d : Disk}
    (hplace : place w.cwd path = place w.cwd s.root ++ [file]) (hfile : ∀ name, file ≠ name ++ ending)
    (hwrite : w.disk.write w.cwd path c = .ok d) (n : Nat) :
    s.Keeps w { w with disk := d, operations := n } := by
  have hentry := entry?_write hwrite
  rw [hplace] at hentry
  obtain ⟨hsolid, hgrows⟩ := write_solid h.solid hwrite
  refine ⟨rfl, rfl, h.inside hsolid hgrows (distinct_write h.distinct hwrite) (fun loc hloc => ?_) n,
    held_congr rfl fun name => ?_⟩
  · rw [hentry, if_neg fun heq => hloc file heq.symm]
  · dsimp only
    rw [hentry, if_neg]
    rw [List.append_right_inj, List.singleton_inj]
    exact (hfile name).symm

/-- **Putting a unit into its place** puts its text under its name. -/
theorem Stands.rename (h : s.Stands w) (hname : '/' ∉ name.toList) {source : String} {d : Disk}
    (hstaged : w.disk.file? (place w.cwd (s.stagingPath name)) = some (.text source))
    (hrename : w.disk.rename w.cwd (s.stagingPath name) (s.path name) = .ok d) (n : Nat) :
    s.Stands { w with disk := d, operations := n } ∧
      s.held { w with disk := d, operations := n } =
        Function.update (s.held w) name (.ok (.text source)) := by
  have hunit := isFileName_unit_iff.2 hname
  have hstaging : place w.cwd (s.stagingPath name) =
      place w.cwd s.root ++ ["." ++ name ++ ending ++ ".tmp"] :=
    place_join (isFileName_staging hname) w.cwd s.root
  have hplace : place w.cwd (s.path name) = place w.cwd s.root ++ [name ++ ending] :=
    place_join hunit w.cwd s.root
  obtain ⟨old, new, -, -, hnew, -⟩ := rename_ok hrename
  obtain ⟨hnul, hlength⟩ := fits_of_locationOf hunit h.room.noNul hnew
  have hnul : '\x00' ∉ name.toList := fun hmem => hnul (by simp [hmem])
  obtain ⟨c, hc, hentry⟩ := entry?_rename hrename
  obtain rfl : c = .text source := by
    rw [file?_eq_some.1 hstaged] at hc
    exact Entry.file.inj (Option.some.inj hc).symm
  rw [hplace, hstaging] at hentry
  obtain ⟨hsolid, hgrows⟩ := rename_solid h.solid hrename
  refine ⟨h.inside hsolid hgrows (distinct_rename h.distinct hrename) (fun loc hloc => ?_) n, ?_⟩
  · rw [hentry, if_neg (fun heq => hloc _ heq.symm), if_neg fun heq => hloc _ heq.symm]
  · funext other
    by_cases hother : other = name
    · subst hother
      have hfits : ¬ TooLong other := Nat.not_lt.2 hlength
      rw [Function.update_self, held, if_neg hnul, if_neg hfits]
      dsimp only
      rw [hentry, if_pos rfl]
      rfl
    · have htarget : place w.cwd s.root ++ [other ++ ending] ≠ place w.cwd s.root ++ [name ++ ending] := by
        rwa [ne_eq, List.append_right_inj, List.singleton_inj, String.append_left_inj]
      have hsource : place w.cwd s.root ++ [other ++ ending] ≠
          place w.cwd s.root ++ ["." ++ name ++ ending ++ ".tmp"] := by
        rw [ne_eq, List.append_right_inj, List.singleton_inj]
        exact (staging_ne_unit name other).symm
      rw [Function.update_of_ne hother, held, held]
      dsimp only
      rw [hentry, if_neg htarget, if_neg hsource]

/-- **Saving** puts the text under the name, and nothing else changes; or it fails, and nothing that is
held changes. -/
theorem save_holds (h : s.Stands w) (hname : '/' ∉ name.toList) (source : String) :
    Ends (s.save name source) w
      (fun file w' => file = s.path name ∧ w'.obstacles = w.obstacles ∧ s.Stands w' ∧
        s.held w' = Function.update (s.held w) name (.ok (.text source)))
      fun e w' => s.Keeps w w' ∧ ∃ file cause, e = .failure (.io file cause) := by
  have hstaging : ∀ cwd, place cwd (s.stagingPath name) =
      place cwd s.root ++ ["." ++ name ++ ending ++ ".tmp"] :=
    fun cwd => place_join (isFileName_staging hname) cwd s.root
  refine (ensureDirectory_keeps h).bind ?_ ?_
  · intro _ w₁ h₁
    refine (Action.writeFile_writes _ _).bind ?_ ?_
    · rintro _ _ ⟨d, n, hwrite, rfl⟩
      have h₂ := h₁.trans (h₁.stands.write (hstaging _) (staging_ne_unit name) hwrite n)
      have hstaged := file?_write hwrite (place w₁.cwd (s.stagingPath name))
      rw [if_pos rfl] at hstaged
      refine (Action.renameFile_ends _ _).bind ?_ ?_
      · rintro _ _ ⟨d', n', hrename, rfl⟩
        obtain ⟨hstands, hheld⟩ := h₂.stands.rename hname hstaged hrename n'
        exact ends_pure ⟨rfl, h₂.obstacles, hstands, hheld.trans (by rw [h₂.held])⟩
      · rintro e _ ⟨n', cause, rfl, rfl⟩
        exact ⟨h₂.trans (.of_counted h₂.stands n'), _, cause, rfl⟩
    · rintro e _ ⟨d, n, cause, rfl, rfl | ⟨content, hwrite⟩, rfl⟩
      · exact ⟨h₁.trans (.of_counted h₁.stands n), _, cause, rfl⟩
      · exact ⟨h₁.trans (h₁.stands.write (hstaging _) (staging_ne_unit name) hwrite n), _, cause, rfl⟩
  · rintro e w₁ ⟨h₁, cause, rfl⟩
    exact ⟨h₁, _, cause, rfl⟩

/-! ## Looking -/

theorem isOk_contentOf {e : Option Entry} : (contentOf e).isOk = true ↔ ∃ c, e = some (.file c) := by
  cases e with
  | none => simp [contentOf, Except.isOk, Except.toBool]
  | some e => cases e <;> simp [contentOf, Except.isOk, Except.toBool]

/-- What is held stands right in the directory. -/
theorem entry?_of_held (h : (s.held w name).isOk = true) :
    ∃ c, w.disk.entry? (place w.cwd s.root ++ [name ++ ending]) = some (.file c) := by
  rw [held] at h
  split at h
  · cases h
  · split at h
    · cases h
    · exact isOk_contentOf.1 h

/-- Where its directory is missing, a file with too long a name is missing as any other file. -/
theorem content_tooLong (h : s.Stands w) (hname : '/' ∉ name.toList) (hnul : '\x00' ∉ name.toList)
    (hlong : TooLong name) : w.disk.content w.cwd (s.path name) =
      .error (if w.disk.leadsToDirectory (startAt w.cwd s.root) (partsOf s.root) then .nameTooLong
        else .notFound) := by
  have hnul' : '\x00' ∉ (name ++ ending).toList := by simpa [ending] using hnul
  rw [path, content_join_tooLong (isFileName_unit_iff.2 hname) h.room.noNul hnul' hlong, leadsToDirectory]
  obtain hthere | ⟨hmissing, -⟩ := h.room.follow h.solid
  · rw [hthere]
    rfl
  · rw [hmissing]
    rfl

/-- **The path of a unit** leads to what is held under its name, but for a file with too long a name whose
directory is missing. -/
theorem content_path (h : s.Stands w) (hname : '/' ∉ name.toList) :
    w.disk.content w.cwd (s.path name) = s.held w name ∨
      TooLong name ∧ s.held w name = .error .nameTooLong ∧
        w.disk.content w.cwd (s.path name) = .error .notFound := by
  by_cases hnul : '\x00' ∈ name.toList
  · left
    have hpath : (s.path name).toList.contains '\x00' = true :=
      List.contains_iff_mem.2 (mem_join_of_mem (by simp [hnul]))
    rw [held, if_pos hnul, content, locationOf, if_pos hpath]
    rfl
  by_cases hlong : TooLong name
  · have hcontent := content_tooLong h hname hnul hlong
    have hheld : s.held w name = .error .nameTooLong := by rw [held, if_neg hnul, if_pos hlong]
    split at hcontent
    · exact .inl (hcontent.trans hheld.symm)
    · exact .inr ⟨hlong, hheld, hcontent⟩
  · left
    have hnul' : '\x00' ∉ (name ++ ending).toList := by simpa [ending] using hnul
    rw [held, if_neg hnul, if_neg hlong]
    exact content_join (isFileName_unit_iff.2 hname) h.room h.solid hnul' (Nat.not_lt.1 hlong)

/-- A unit exists just if the store holds something under its name. -/
theorem isFile_path (h : s.Stands w) (hname : '/' ∉ name.toList) :
    w.disk.isFile w.cwd (s.path name) = (s.held w name).isOk := by
  rw [isFile_eq_content]
  obtain hheld | ⟨-, hheld, hcontent⟩ := content_path h hname
  · rw [hheld]
  · rw [hheld, hcontent]
    rfl

/-- A map from names to what is held under them. -/
abbrev Holdings := String → Except Cause Content

/-- The names are listed for the map: those of the units that it holds, sorted and each once. No file in
which a unit is written before is among them. -/
structure Lists (m : Holdings) (names : List String) : Prop where
  sorted : names.Pairwise fun a b => compare a b = .lt
  mem_iff : ∀ name, name ∈ names ↔ (m name).isOk = true ∧ name ≠ "" ∧ '/' ∉ name.toList ∧
    name.toList.head? ≠ some '.'
  unstaged : ∀ name ∈ names, ∀ other, name ++ ending ≠ "." ++ other ++ ending ++ ".tmp"

/-- What is sorted by texts, and has different texts, is sorted strictly. -/
theorem pairwise_mergeSort {α : Type} {key : α → String} {xs : List α} (h : (xs.map key).Nodup) :
    (xs.mergeSort fun x y => compare (key x) (key y) != .gt).Pairwise
      fun x y => compare (key x) (key y) = .lt := by
  have hle : (fun x y => compare (key x) (key y) != .gt) = fun x y => (compare (key x) (key y)).isLE := by
    funext x y
    cases compare (key x) (key y) <;> rfl
  rw [hle]
  have hsorted : (xs.mergeSort fun x y => (compare (key x) (key y)).isLE).Pairwise fun x y =>
      (compare (key x) (key y)).isLE = true :=
    List.pairwise_mergeSort (fun _ _ _ => Std.TransCmp.isLE_trans) (fun _ _ => isLE_total _ _) xs
  have hnodup := (((List.mergeSort_perm xs fun x y => (compare (key x) (key y)).isLE).map key).nodup_iff).2 h
  refine hsorted.imp₂ (fun x y hxy hne => ?_) (List.pairwise_map.1 hnodup)
  cases hcompare : compare (key x) (key y) with
  | lt => rfl
  | eq => exact absurd (Std.LawfulEqOrd.eq_of_compare hcompare) hne
  | gt => rw [hcompare] at hxy; cases hxy

/-- With nothing held, no names are listed. -/
theorem lists_nil {m : Holdings} (h : ∀ name, (m name).isOk ≠ true) : Lists m [] := by
  refine ⟨.nil, fun name => ?_, fun _ hname => absurd hname List.not_mem_nil⟩
  exact iff_of_false List.not_mem_nil fun hheld => h name hheld.1

/-- **The units in the directory** are listed for what is held. -/
theorem lists_names (h : s.Stands w) :
    Lists (s.held w) ((((w.disk.names (place w.cwd s.root)).mergeSort fun a b => compare a b != .gt).filterMap
      fun file => if w.disk.isFile w.cwd (join s.root file) then unitName? file else none).mergeSort
        fun a b => compare a b != .gt) := by
  have hfiles := (List.mergeSort_perm (w.disk.names (place w.cwd s.root))
    fun a b => compare a b != .gt)
  refine ⟨@pairwise_mergeSort _ id _ ?_, fun name => ?_, fun name _ other h => staging_ne_unit other name h.symm⟩
  · -- two files of one unit are the same file
    rw [List.map_id]
    refine (hfiles.nodup_iff.2 (nodup_names h.distinct _)).filterMap fun file file' name hfile hfile' => ?_
    simp only [Option.mem_def] at hfile hfile'
    split at hfile
    · split at hfile'
      · rw [eq_of_unitName? hfile, eq_of_unitName? hfile']
      · cases hfile'
    · cases hfile
  · rw [List.mem_mergeSort, List.mem_filterMap]
    constructor
    · rintro ⟨file, hfile, hunit⟩
      split at hunit
      · rename_i hisFile
        obtain ⟨rfl, hne, hdot⟩ := unitName?_eq_some_iff.1 hunit
        obtain ⟨e, he⟩ := mem_names.1 (List.mem_mergeSort.1 hfile)
        have hslash := isFileName_unit_iff.1 (h.solid.name he)
        exact ⟨(isFile_path h hslash).symm.trans hisFile, hne, hslash, hdot⟩
      · cases hunit
    · rintro ⟨hheld, hne, hslash, hdot⟩
      refine ⟨name ++ ending, List.mem_mergeSort.2 (mem_names.2 ?_), ?_⟩
      · obtain ⟨c, hc⟩ := entry?_of_held hheld
        exact ⟨_, hc⟩
      · have hisFile : w.disk.isFile w.cwd (join s.root (name ++ ending)) = true :=
          (isFile_path h hslash).trans hheld
        rw [if_pos hisFile]
        exact unitName?_eq_some_iff.2 ⟨rfl, hne, hdot⟩

theorem list_answers (h : s.Stands w) :
    Ends s.list w
      (fun names w' => s.Keeps w w' ∧
        (w.met? = none ∧ Lists (s.held w) names ∨ w.met? = some .notFound ∧ names = []))
      fun e w' => s.Keeps w w' ∧ ∃ cause, w.met? = some cause ∧ cause ≠ .notFound ∧
        e = .failure (.io s.root cause) := by
  have hroom := list_room h.room h.solid
  refine (Foundry.unitsIn_answers s.root).bind ?_ ?_
  · rintro units _ ⟨⟨n, rfl⟩, hunits⟩
    refine ends_pure ⟨.of_counted h n, ?_⟩
    cases hmet : w.met? with
    | some cause =>
      rw [World.answer_met hmet] at hunits
      obtain ⟨files, hfiles, -⟩ | ⟨hmissing, rfl⟩ := hunits
      · cases hfiles
      · exact .inr ⟨congrArg some (Except.error.inj hmissing), rfl⟩
    | none =>
      rw [World.answer_free hmet] at hunits
      refine .inl ⟨rfl, ?_⟩
      obtain ⟨files, hfiles, rfl⟩ | ⟨hmissing, rfl⟩ := hunits
      · obtain hthere | ⟨hmissing, -⟩ := hroom
        · obtain rfl := Except.ok.inj (hthere.symm.trans hfiles)
          have hunit : ∀ file, (if w.disk.isFile w.cwd (join s.root file) then
              (unitName? file).map fun name => (name, join s.root file) else none).map Prod.fst =
                if w.disk.isFile w.cwd (join s.root file) then unitName? file else none := by
            intro file
            split
            · rw [Option.map_map, Function.comp_def]
              exact Option.map_id'
            · rfl
          rw [@List.map_mergeSort _ _ _ (fun a b => compare a b != .gt) _ _ fun _ _ _ _ => rfl,
            List.map_filterMap]
          simp only [hunit]
          exact lists_names h
        · rw [hmissing] at hfiles
          cases hfiles
      · obtain hthere | ⟨-, hnone⟩ := hroom
        · rw [hthere] at hmissing
          cases hmissing
        · refine lists_nil fun name hheld => ?_
          obtain ⟨c, hc⟩ := entry?_of_held hheld
          rw [hnone] at hc
          cases hc
  · rintro e _ ⟨⟨n, rfl⟩, cause, rfl, hfound, hfailed⟩
    refine ⟨.of_counted h n, cause, ?_, hfound, rfl⟩
    cases hmet : w.met? with
    | some cause' =>
      rw [World.answer_met hmet] at hfailed
      exact congrArg some (Except.error.inj hfailed)
    | none =>
      rw [World.answer_free hmet] at hfailed
      obtain hthere | ⟨hmissing, -⟩ := hroom
      · rw [hthere] at hfailed
        cases hfailed
      · rw [hmissing] at hfailed
        exact absurd (Except.error.inj hfailed).symm hfound

/-- What comes of loading the unit when the file is read like this. -/
def loaded (s : Store) (name : String) : Except Cause Content → Except Halt String
  | .ok (.text source) => .ok source
  | .ok (.binary _) => .error (.failure (.io (s.path name) .notText))
  | .error cause => .error (.failure (if cause = .notFound then .notFound name else .io (s.path name) cause))

/-- What is read of a unit: what is held under its name, or the obstacle that was met. A file with too long
a name may be missing with its directory. -/
def Reads (m : Holdings) (name : String) : Option Cause → Except Cause Content → Prop
  | some cause, v => v = .error cause
  | none, v => v = m name ∨ TooLong name ∧ m name = .error .nameTooLong ∧ v = .error .notFound

/-- What is loaded is what is read at the path of the unit. -/
theorem load_reads (s : Store) (w : World) (name : String) :
    Ends (s.load name) w
      (fun source w' => (∃ n, w' = { w with operations := n }) ∧
        s.loaded name (w.answer fun d cwd => d.content cwd (s.path name)) = .ok source)
      fun e w' => (∃ n, w' = { w with operations := n }) ∧
        s.loaded name (w.answer fun d cwd => d.content cwd (s.path name)) = .error e := by
  refine (look_answers _).bind ?_ (fun _ _ h => h.elim)
  rintro r _ ⟨rfl, n, rfl⟩
  -- the bytes of a file that is no text are content that is not read
  have hread : (w.answer fun d cwd => d.read cwd (s.path name)) =
      match w.answer fun d cwd => d.content cwd (s.path name) with
      | .ok (.text source) => .ok source
      | .ok (.binary _) => .error .notText
      | .error cause => .error cause := by
    rw [World.answer, World.answer]
    cases w.met? with
    | some cause => rfl
    | none =>
      dsimp only
      rw [Disk.read]
      cases w.disk.content w.cwd (s.path name) with
      | error cause => rfl
      | ok c => cases c <;> rfl
  rw [hread]
  generalize (w.answer fun d cwd => d.content cwd (s.path name)) = v
  cases v with
  | ok c =>
    cases c with
    | text source => exact ends_pure ⟨⟨n, rfl⟩, rfl⟩
    | binary bytes => exact ends_throw ⟨⟨n, rfl⟩, rfl⟩
  | error cause =>
    dsimp only
    split
    · rename_i hcause
      exact ends_throw ⟨⟨n, rfl⟩, by rw [loaded, if_pos hcause]⟩
    · rename_i hcause
      exact ends_throw ⟨⟨n, rfl⟩, by rw [loaded, if_neg hcause]⟩

theorem load_answers (h : s.Stands w) (hname : '/' ∉ name.toList) :
    Ends (s.load name) w
      (fun source w' => s.Keeps w w' ∧
        ∃ v, Reads (s.held w) name w.met? v ∧ s.loaded name v = .ok source)
      fun e w' => s.Keeps w w' ∧ ∃ v, Reads (s.held w) name w.met? v ∧ s.loaded name v = .error e := by
  have hreads : Reads (s.held w) name w.met? (w.answer fun d cwd => d.content cwd (s.path name)) := by
    rw [World.answer]
    cases w.met? with
    | some cause => rfl
    | none => exact content_path h hname
  refine (load_reads s w name).mono ?_ ?_
  · rintro source _ ⟨⟨n, rfl⟩, hloaded⟩
    exact ⟨.of_counted h n, _, hreads, hloaded⟩
  · rintro e _ ⟨⟨n, rfl⟩, hloaded⟩
    exact ⟨.of_counted h n, _, hreads, hloaded⟩

/-- **A name that is too long** fails to load in one of two ways: with its directory, or by itself. -/
theorem load_tooLong (h : s.Stands w) (hname : '/' ∉ name.toList) (hnul : '\x00' ∉ name.toList)
    (hlong : TooLong name) (hfree : w.met? = none) :
    Ends (s.load name) w (fun _ _ => False) fun e _ => e = .failure
      (if w.disk.leadsToDirectory (startAt w.cwd s.root) (partsOf s.root)
        then .io (s.path name) .nameTooLong else .notFound name) := by
  have hreads := load_reads s w name
  rw [World.answer_free hfree, content_tooLong h hname hnul hlong] at hreads
  refine hreads.mono ?_ ?_
  · rintro source _ ⟨-, hloaded⟩
    cases hloaded
  · rintro e _ ⟨-, hloaded⟩
    obtain rfl := Except.error.inj hloaded
    split
    · rfl
    · rfl

/-! ## Runs of calls -/

/-- A call of the store. -/
inductive Call where
  | save (name source : String)
  | load (name : String)
  | exists? (name : String)
  | list

/-- What a call that succeeds answers. -/
inductive Answer where
  | saved (file : String)
  | loaded (source : String)
  | found (there : Bool)
  | listed (names : List String)
  deriving DecidableEq

namespace Call

/-- Carries out the call. -/
def run (s : Store) : Call → Action Answer
  | save name source => return .saved (← s.save name source)
  | load name => return .loaded (← s.load name)
  | exists? name => return .found (← s.exists? name)
  | list => return .listed (← s.list)

/-- The name in the call, if it has one, has no slash. -/
def NoSlash : Call → Prop
  | save name _ | load name | exists? name => '/' ∉ name.toList
  | list => True

instance : DecidablePred NoSlash
  | save name _ | load name | exists? name => inferInstanceAs (Decidable ('/' ∉ name.toList))
  | list => .isTrue trivial

/-- The answer, or the failure, is right for what the map holds. An obstacle that is met is answered, but
one that makes the directory seem to be missing. -/
def Answered (s : Store) (m : Holdings) : Option Cause → Call → Except Halt Answer → Prop
  | _, save name _, r =>
    r = .ok (.saved (s.path name)) ∨ ∃ file cause, r = .error (.failure (.io file cause))
  | met, load name, r => ∃ v, Reads m name met v ∧ r = (s.loaded name v).map .loaded
  | _, exists? name, r => r = .ok (.found (m name).isOk)
  | none, list, r => ∃ names, Lists m names ∧ r = .ok (.listed names)
  | some cause, list, r =>
    r = if cause = .notFound then .ok (.listed []) else .error (.failure (.io s.root cause))

/-- The map after the call: a text that was saved is held under its name. -/
def after (m : Holdings) : Call → Except Halt Answer → Holdings
  | save name source, .ok _ => Function.update m name (.ok (.text source))
  | _, _ => m

/-- **Each call** is answered for what is held, and does to it what it does to the map. -/
theorem run_answers (c : Call) (hc : c.NoSlash) (h : s.Stands w) {r : Except Halt Answer} {w' : World}
    (hrun : (c.run s).run w = (r, w')) :
    w'.obstacles = w.obstacles ∧ s.Stands w' ∧ Answered s (s.held w) w.met? c r ∧
      s.held w' = c.after (s.held w) r := by
  have hends : Ends (c.run s) w
      (fun a w' => w'.obstacles = w.obstacles ∧ s.Stands w' ∧
        Answered s (s.held w) w.met? c (.ok a) ∧ s.held w' = c.after (s.held w) (.ok a))
      fun e w' => w'.obstacles = w.obstacles ∧ s.Stands w' ∧
        Answered s (s.held w) w.met? c (.error e) ∧ s.held w' = c.after (s.held w) (.error e) := by
    cases c with
    | save name source =>
      refine (save_holds h hc source).bind ?_ ?_
      · rintro _ w' ⟨rfl, hobstacles, hstands, hheld⟩
        exact ends_pure ⟨hobstacles, hstands, .inl rfl, hheld⟩
      · rintro e w' ⟨hkeeps, file, cause, rfl⟩
        exact ⟨hkeeps.obstacles, hkeeps.stands, .inr ⟨file, cause, rfl⟩, hkeeps.held⟩
    | load name =>
      refine (load_answers h hc).bind ?_ ?_
      · rintro source w' ⟨hkeeps, v, hreads, hv⟩
        exact ends_pure ⟨hkeeps.obstacles, hkeeps.stands, ⟨v, hreads, by rw [hv]; rfl⟩, hkeeps.held⟩
      · rintro e w' ⟨hkeeps, v, hreads, hv⟩
        exact ⟨hkeeps.obstacles, hkeeps.stands, ⟨v, hreads, by rw [hv]; rfl⟩, hkeeps.held⟩
    | exists? name =>
      refine (Action.isFile_ends _).bind ?_ (fun _ _ h => h.elim)
      rintro _ _ ⟨rfl, rfl⟩
      exact ends_pure ⟨rfl, h, by rw [Answered, isFile_path h hc], rfl⟩
    | list =>
      refine (list_answers h).bind ?_ ?_
      · rintro names w' ⟨hkeeps, ⟨hmet, hlists⟩ | ⟨hmet, rfl⟩⟩
        · rw [hmet]
          exact ends_pure ⟨hkeeps.obstacles, hkeeps.stands, ⟨names, hlists, rfl⟩, hkeeps.held⟩
        · rw [hmet]
          exact ends_pure ⟨hkeeps.obstacles, hkeeps.stands, rfl, hkeeps.held⟩
      · rintro e w' ⟨hkeeps, cause, hmet, hcause, rfl⟩
        rw [hmet]
        exact ⟨hkeeps.obstacles, hkeeps.stands, by rw [Answered, if_neg hcause], hkeeps.held⟩
  cases r with
  | ok a => exact hends.of_ok hrun
  | error e => exact hends.of_error hrun

end Call

/-- What comes of the calls, one after the other, with the world after them. -/
def runAll (s : Store) : List Call → World → List (Call × Except Halt Answer) × World
  | [], w => ([], w)
  | c :: cs, w =>
    let (r, w) := (c.run s).run w
    let (log, w) := runAll s cs w
    ((c, r) :: log, w)

/-- The map that the calls lead to, with what came of them. -/
def replay (m : Holdings) (log : List (Call × Except Halt Answer)) : Holdings :=
  log.foldl (fun m entry => entry.1.after m entry.2) m

/-- What the calls answer that succeed. -/
def answers (s : Store) (calls : List Call) (w : World) : List (Option Answer) :=
  (s.runAll calls w).1.map fun entry => entry.2.toOption

/-- **A store is a map.** In a run of calls each is answered for the map that the calls before it lead to,
in the world that they leave, and what is held at the end is the map that all of them lead to. -/
theorem runAll_answers {calls : List Call} (h : s.Stands w) (hcalls : ∀ c ∈ calls, c.NoSlash)
    {log : List (Call × Except Halt Answer)} {w' : World} (hrun : s.runAll calls w = (log, w')) :
    log.map Prod.fst = calls ∧ w'.obstacles = w.obstacles ∧ s.Stands w' ∧
      s.held w' = replay (s.held w) log ∧
      ∀ earlier c r later, log = earlier ++ (c, r) :: later →
        ∃ w₁, s.runAll (earlier.map Prod.fst) w = (earlier, w₁) ∧
          c.Answered s (replay (s.held w) earlier) w₁.met? r := by
  induction calls generalizing w log with
  | nil =>
    obtain ⟨rfl, rfl⟩ := Prod.mk.inj hrun
    exact ⟨rfl, rfl, h, rfl, by simp⟩
  | cons c calls ih =>
    obtain ⟨hc, hcalls⟩ := List.forall_mem_cons.1 hcalls
    rcases hstep : (c.run s).run w with ⟨r, w₁⟩
    rcases hrest : s.runAll calls w₁ with ⟨log', w₂⟩
    rw [runAll, hstep] at hrun
    dsimp only at hrun
    rw [hrest] at hrun
    obtain ⟨rfl, rfl⟩ := Prod.mk.inj hrun
    obtain ⟨hobstacles, hstands, hanswered, hheld⟩ := c.run_answers hc h hstep
    obtain ⟨hcalled, hobstacles', hstands', hheld', hlater⟩ := ih hstands hcalls hrest
    rw [hheld] at hheld' hlater
    refine ⟨by rw [List.map_cons, hcalled], hobstacles'.trans hobstacles, hstands', hheld',
      fun earlier c' r' later hlog => ?_⟩
    cases earlier with
    | nil =>
      obtain ⟨hentry, -⟩ := List.cons.inj hlog
      obtain ⟨rfl, rfl⟩ := Prod.mk.inj hentry
      exact ⟨w, rfl, hanswered⟩
    | cons entry earlier =>
      obtain ⟨rfl, hbehind⟩ := List.cons.inj hlog
      obtain ⟨w₃, hrun₃, hanswered₃⟩ := hlater earlier c' r' later hbehind
      refine ⟨w₃, ?_, hanswered₃⟩
      rw [List.map_cons, runAll, hstep]
      dsimp only
      rw [hrun₃]

/-- A world with a directory in which there are a unit, a directory that is named like one, and a file in
which a unit was written before. -/
def cluttered : World :=
  { World.fresh with
    disk := (((Disk.empty.put ["units"] .directory).put ["units", "A.rs"] (.file (.text "old"))).put
      ["units", "B.rs"] .directory).put ["units", ".C.rs.tmp"] (.file (.binary [255])) }

theorem stands_cluttered : Store.Stands ⟨"units"⟩ cluttered := by
  have hname : ∀ name : String, name ≠ "" → name ≠ "." → name ≠ ".." → '/' ∉ name.toList →
      IsFileName name := fun _ hempty hdot hup hslash => ⟨hempty, hdot, hup, hslash⟩
  have hdir := (solid_empty.put (e := .directory) (List.nil_append ["units"]).symm rfl
    (hname _ (by decide) (by decide) (by decide) (by decide)) (by decide)).1
  have hunit := (hdir.put (e := .file (.text "old"))
    (show ["units", "A.rs"] = ["units"] ++ ["A.rs"] from rfl) rfl
    (hname _ (by decide) (by decide) (by decide) (by decide)) (by decide)).1
  have hinner := (hunit.put (e := .directory)
    (show ["units", "B.rs"] = ["units"] ++ ["B.rs"] from rfl) rfl
    (hname _ (by decide) (by decide) (by decide) (by decide)) (by decide)).1
  have hstaged := (hinner.put (e := .file (.binary [255]))
    (show ["units", ".C.rs.tmp"] = ["units"] ++ [".C.rs.tmp"] from rfl) rfl
    (hname _ (by decide) (by decide) (by decide) (by decide)) (by decide)).1
  have hthere : cluttered.disk.follow (startAt cluttered.cwd "units") (partsOf "units") = .ok ["units"] :=
    toOption_eq_some.1 (by decide +kernel)
  refine ⟨hstaged, ?_, .of_follow hstaged (by decide) (by decide) hthere⟩
  exact distinct_put (distinct_put (distinct_put (distinct_put distinct_empty _ _) _ _) _ _) _ _

/-- In the cluttered directory one unit is overwritten and one cannot be put into its place. -/
theorem runAll_answers_cluttered :
    let s : Store := ⟨"units"⟩
    let calls : List Call := [.save "A" "new", .save "B" "b", .load "A", .exists? "B"]
    ∃ log w', s.runAll calls cluttered = (log, w') ∧
      s.answers calls cluttered =
        [some (.saved "units/A.rs"), none, some (.loaded "new"), some (.found false)] ∧
      s.held w' = replay (s.held cluttered) log ∧ s.held w' "A" = .ok (.text "new") ∧
      s.held w' "B" = .error .isADirectory := by
  intro s calls
  rcases hrun : s.runAll calls cluttered with ⟨log, w'⟩
  have hworld : (s.runAll calls cluttered).2 = w' := by rw [hrun]
  have hcalls : ∀ c ∈ calls, c.NoSlash := by decide +kernel
  obtain ⟨-, -, -, hheld, -⟩ := runAll_answers stands_cluttered hcalls hrun
  refine ⟨log, w', rfl, by decide +kernel, hheld, ?_, ?_⟩
  · rw [← toOption_eq_some, ← hworld]
    decide +kernel
  · rw [← hworld]
    decide +kernel

/-- **Not every store is a map.** Where a path leads through a directory that is missing, a unit exists
after another one was saved, as the directory was made. At the empty path units exist that are not listed,
and where a file is in the way nothing is listed. And where the directory of the store is missing, a name that
is too long fails to load in another way after another name was saved. -/
theorem not_map :
    answers ⟨"a/../b"⟩ [.exists? "X", .save "Y" "y", .exists? "X"] .detour =
      [some (.found false), some (.saved "a/../b/Y.rs"), some (.found true)] ∧
    answers ⟨""⟩ [.save "X" "x", .exists? "X", .list] .fresh =
      [some (.saved "X.rs"), some (.found true), some (.listed [])] ∧
    answers ⟨"b/X.rs"⟩ [.exists? "Y", .list] .detour = [some (.found false), none] ∧
    let s : Store := ⟨"units"⟩
    let long := String.ofList (List.replicate 253 'L')
    let w := ((s.save "A" "a").run .fresh).2
    isIdentifier long = true ∧ ((s.save "A" "a").run .fresh).1 = .ok "units/A.rs" ∧
      ((s.load long).run .fresh).1 = .error (.failure (.notFound long)) ∧
      ((s.load long).run w).1 = .error (.failure (.io (s.path long) .nameTooLong)) := by
  refine ⟨by decide +kernel, by decide +kernel, by decide +kernel, ?_⟩
  intro s long w
  have hchars : long.toList = List.replicate 253 'L' := String.toList_ofList
  have hidentifier : isIdentifier long = true := by
    rw [isIdentifier, hchars]
    decide +kernel
  have hslash : '/' ∉ long.toList :=
    Synthesis.not_mem_identifier hidentifier (by decide) (by decide) (by decide)
  have hnul : '\x00' ∉ long.toList :=
    Synthesis.not_mem_identifier hidentifier (by decide) (by decide) (by decide)
  have hlong : TooLong long := by decide +kernel
  have hfresh : s.Stands .fresh := by
    refine ⟨solid_empty, distinct_empty, by decide, by decide, [], partsOf s.root, _, rfl, rfl, ?_, ?_⟩
    · decide +kernel
    · intro ps _ c hc
      rw [eq_nil_of_entry?_empty hc] at hc
      cases hc
  have hsaved : ((s.save "A" "a").run .fresh).1 = .ok "units/A.rs" :=
    toOption_eq_some.1 (by decide +kernel)
  have hstands : s.Stands w :=
    ((save_holds hfresh (by decide) "a").of_ok (Prod.ext hsaved rfl)).2.2.1
  have hfails : ∀ {w : World} {e : Halt}, Ends (s.load long) w (fun _ _ => False) (fun e' _ => e' = e) →
      ((s.load long).run w).1 = .error e := by
    intro w e hends
    rcases hrun : (s.load long).run w with ⟨source | e', w'⟩
    · rw [hends.of_error hrun]
    · exact (hends.of_ok hrun).elim
  have hmissing : World.fresh.disk.leadsToDirectory (startAt World.fresh.cwd s.root) (partsOf s.root) =
      false := by decide +kernel
  have hthere : w.disk.leadsToDirectory (startAt w.cwd s.root) (partsOf s.root) = true := by
    decide +kernel
  have hbefore := load_tooLong hfresh hslash hnul hlong rfl
  have hafter := load_tooLong hstands hslash hnul hlong (by decide +kernel)
  rw [hmissing] at hbefore
  rw [hthere] at hafter
  exact ⟨hidentifier, hsaved, hfails hbefore, hfails hafter⟩

end Store

end TypeFoundry
