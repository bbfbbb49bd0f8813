import TypeFoundry.Proofs.Making

/-!
# Clutter in directories

A directory of units can hold other things: directories, files with another ending or with a dot in front, and
texts that are no units (`Junk`). The units are not affected by them. `Shows` says what stands right in a
directory; on two disks of which the later has more it is the same but for what was added (`Shows.of_added`),
as long as nothing that was added changes where a path leads (`Passes`). So the units in a directory are the
same on both if all that was added right in it is junk (`isUnitIn_congr`), and so is whether they can be
collected (`collectable_congr`).
-/

set_option autoImplicit false

namespace TypeFoundry

open Files Files.Disk Source

namespace Files.Disk

variable {d d' : Disk} {cwd start : Location} {dir : String} {parts : List String}

/-! ## What was added -/

/-- The later disk has the entry where the earlier disk has none. -/
def Adds (d d' : Disk) (loc : Location) (e : Entry) : Prop := d.entry? loc = none ∧ d'.entry? loc = some e

/-- The later disk has all that the earlier disk has. -/
def Extends (d d' : Disk) : Prop := ∀ loc e, d.entry? loc = some e → d'.entry? loc = some e

/-- Where the earlier disk ends on the way of the parts and something was added, the later disk leads down. -/
def Passes (d d' : Disk) (start : Location) (parts : List String) : Prop :=
  ∀ ps part rest loc e, parts = ps ++ part :: rest → d.follow start ps = .ok loc →
    Adds d d' (loc ++ [part]) e → d'.LeadsDown loc (part :: rest)

namespace Extends

theorem refl (d : Disk) : Extends d d := fun _ _ h => h

theorem grows (h : Extends d d') : Grows d d' := fun loc hloc => h loc _ hloc

/-- What is on the later disk was there before, or it was added. -/
theorem cases {loc : Location} {e : Entry} (h : Extends d d') (he : d'.entry? loc = some e) :
    d.entry? loc = some e ∨ Adds d d' loc e := by
  cases hentry : d.entry? loc with
  | none => exact .inr ⟨hentry, he⟩
  | some e' => exact .inl ((h loc e' hentry).symm.trans he)

/-- One entry more is put where nothing was. -/
theorem put {loc : Location} {e : Entry} (h : Extends d d') (hnone : d.entry? loc = none) :
    Extends d (d'.put loc e) := by
  intro loc' e' he'
  have hne : loc' ≠ loc := by
    rintro rfl
    cases hnone.symm.trans he'
  rw [entry?_put_of_ne hne]
  exact h loc' e' he'

end Extends

theorem not_adds_self {loc : Location} {e : Entry} : ¬ Adds d d loc e := fun ⟨hnone, he⟩ => by
  cases hnone.symm.trans he

/-- What was added is the entry that was put last, or it was added before. -/
theorem Adds.of_put {loc loc' : Location} {e e' : Entry} (h : Adds d (d'.put loc e) loc' e')
    (hloc : loc ≠ []) : loc' = loc ∧ e' = e ∨ Adds d d' loc' e' := by
  obtain ⟨hnone, he'⟩ := h
  by_cases hsame : loc' = loc
  · subst hsame
    rw [entry?_put_self hloc] at he'
    exact .inl ⟨rfl, (Option.some.inj he').symm⟩
  · rw [entry?_put_of_ne hsame] at he'
    exact .inr ⟨hnone, he'⟩

/-- Nothing stands below where nothing is. -/
theorem Solid.entry?_below {loc : Location} (h : d.Solid cwd) (hnone : d.entry? loc = none)
    (inner : List String) : d.entry? (loc ++ inner) = none := by
  cases inner with
  | nil => rwa [List.append_nil]
  | cons part inner =>
    by_contra hsome
    obtain ⟨e, he⟩ := Option.ne_none_iff_exists'.1 hsome
    simp [h.above he] at hnone

/-- **Where a path leads** is the same on both disks, or it ended before and now leads to a directory in which
everything is new. -/
theorem follow_of_added (hsolid : d.Solid cwd) (hextends : Extends d d') (hpasses : Passes d d' start parts) :
    d'.follow start parts = d.follow start parts ∨
      d.follow start parts = .error .notFound ∧ d'.follow start parts = .ok (walk start parts) ∧
        ∀ name, d.entry? (walk start parts ++ [name]) = none := by
  induction parts generalizing start with
  | nil => exact .inl rfl
  | cons part parts ih =>
    have hrest : ∀ {next}, d.follow start [part] = .ok next → Passes d d' next parts := by
      intro next hnext ps q rest loc e hparts hloc hadds
      refine hpasses (part :: ps) q rest loc e (by rw [hparts]; rfl) ?_ hadds
      rw [← List.singleton_append, follow_append, hnext]
      exact hloc
    by_cases hup : part = ".."
    · have hnext : d.follow start [part] = .ok start.dropLast := by rw [follow, if_pos hup]; rfl
      simpa only [follow, walk_cons, if_pos hup] using ih (hrest hnext)
    by_cases hlength : maxName < part.utf8ByteSize
    · left
      simp only [follow, if_neg hup, if_pos hlength]
    cases hentry : d.entry? (start ++ [part]) with
    | some e =>
      have hentry' := hextends _ _ hentry
      cases e with
      | file c =>
        left
        simp only [follow, if_neg hup, if_neg hlength, hentry, hentry']
      | directory =>
        have hnext : d.follow start [part] = .ok (start ++ [part]) := by
          rw [follow, if_neg hup, if_neg hlength, hentry]
          rfl
        simpa only [follow, walk_cons, if_neg hup, if_neg hlength, hentry, hentry'] using ih (hrest hnext)
    | none =>
      have hmissing : d.follow start (part :: parts) = .error .notFound := by
        rw [follow, if_neg hup, if_neg hlength, hentry]
      cases hentry' : d'.entry? (start ++ [part]) with
      | none =>
        left
        rw [hmissing, follow, if_neg hup, if_neg hlength, hentry']
      | some e =>
        -- something new is on the way, so the later disk leads down from here
        have hdown := hpasses [] part parts start e rfl rfl ⟨hentry, hentry'⟩
        have hwalk : walk start (part :: parts) = start ++ part :: parts :=
          walk_down fun h => (hdown.down _ h).1 rfl
        rcases hdown.follow with hfound | hfound
        · refine .inr ⟨hmissing, hfound.trans (by rw [hwalk]), fun name => ?_⟩
          simpa [hwalk] using hsolid.entry?_below hentry (parts ++ [name])
        · exact .inl (hfound.trans hmissing.symm)

/-! ## What stands right in a directory -/

/-- The entry stands under the name right in the directory, which can be handed to the system. -/
structure Shows (d : Disk) (cwd : Location) (dir name : String) (e : Entry) : Prop where
  ne_empty : dir ≠ ""
  noNul : '\x00' ∉ dir.toList
  stands : ∃ loc, d.follow (startAt cwd dir) (partsOf dir) = .ok loc ∧ d.entry? (loc ++ [name]) = some e

/-- A path that is empty or that the system does not take cannot be listed, whatever is on the disk. -/
theorem list_of_unusable {c : Location} (h : ¬ (dir ≠ "" ∧ '\x00' ∉ dir.toList)) :
    ∃ cause, ∀ d : Disk, d.list c dir = .error cause := by
  by_cases hnul : '\x00' ∈ dir.toList
  · exact ⟨.nulInName, fun d => by rw [list, locationOf, if_pos (List.contains_iff_mem.2 hnul)]; rfl⟩
  · have hempty : dir = "" := not_not.1 fun hne => h ⟨hne, hnul⟩
    exact ⟨.notFound, fun d => by rw [list, locationOf, if_neg (by simp [hempty]), if_pos hempty]; rfl⟩

/-- The names that are listed are those of what stands in the directory. -/
theorem listed_iff (h : d.Solid cwd) {name : String} :
    (∃ names, d.list cwd dir = .ok names ∧ name ∈ names) ↔ ∃ e, d.Shows cwd dir name e := by
  by_cases hdir : dir ≠ "" ∧ '\x00' ∉ dir.toList
  · obtain ⟨hempty, hnul⟩ := hdir
    rw [list_eq h hempty hnul]
    cases hfollow : d.follow (startAt cwd dir) (partsOf dir) with
    | error cause =>
      refine iff_of_false (fun ⟨names, hnames, _⟩ => by cases hnames) fun ⟨e, he⟩ => ?_
      obtain ⟨loc, hloc, -⟩ := he.stands
      rw [hfollow] at hloc
      cases hloc
    | ok loc =>
      simp only [Except.map, Except.ok.injEq, exists_eq_left', List.mem_mergeSort, mem_names]
      refine exists_congr fun e => ⟨fun he => ⟨hempty, hnul, loc, hfollow, he⟩, fun he => ?_⟩
      obtain ⟨loc', hloc', he⟩ := he.stands
      obtain rfl := Except.ok.inj (hfollow.symm.trans hloc')
      exact he
  · obtain ⟨cause, hlist⟩ := list_of_unusable (c := cwd) hdir
    refine iff_of_false (fun ⟨names, hnames, _⟩ => ?_) fun ⟨e, he⟩ => hdir ⟨he.ne_empty, he.noNul⟩
    rw [hlist d] at hnames
    cases hnames

/-- **What stands in a directory** of the later disk stood there before, or it was added. -/
theorem Shows.of_added {name : String} {e : Entry} (h : d'.Shows cwd dir name e) (hsolid : d.Solid cwd)
    (hextends : Extends d d') (hpasses : Passes d d' (startAt cwd dir) (partsOf dir)) :
    d.Shows cwd dir name e ∨ Adds d d' (place cwd dir ++ [name]) e := by
  obtain ⟨loc, hfollow, he⟩ := h.stands
  obtain rfl : loc = place cwd dir := follow_eq_walk hfollow
  rcases follow_of_added hsolid hextends hpasses with hsame | ⟨-, -, hnew⟩
  · rw [hsame] at hfollow
    exact (hextends.cases he).imp_left fun he => ⟨h.ne_empty, h.noNul, _, hfollow, he⟩
  · exact .inr ⟨hnew name, he⟩

theorem Shows.extends {name : String} {e : Entry} (h : d.Shows cwd dir name e) (hextends : Extends d d') :
    d'.Shows cwd dir name e := by
  obtain ⟨loc, hfollow, he⟩ := h.stands
  exact ⟨h.ne_empty, h.noNul, loc, follow_grows hextends.grows hfollow, hextends _ _ he⟩

/-- The file is listed in the directory and holds the content. -/
structure HoldsIn (d : Disk) (cwd : Location) (dir name : String) (c : Content) : Prop where
  listed : ∃ files, d.list cwd dir = .ok files ∧ name ∈ files
  content : d.content cwd (join dir name) = .ok c

/-- **What a directory holds** stands in it, under a name that the system takes. -/
theorem holdsIn_iff (h : d.Solid cwd) {name : String} {c : Content} : d.HoldsIn cwd dir name c ↔
    d.Shows cwd dir name (.file c) ∧ '\x00' ∉ name.toList ∧ name.utf8ByteSize ≤ maxName := by
  have hcontent : ∀ {e}, d.Shows cwd dir name e → d.content cwd (join dir name) =
      if '\x00' ∈ name.toList then .error .nulInName
      else if maxName < name.utf8ByteSize then .error .nameTooLong else contentOf (some e) := by
    intro e hshows
    obtain ⟨loc, hfollow, he⟩ := hshows.stands
    by_cases hnul : '\x00' ∈ name.toList
    · rw [if_pos hnul, Disk.content, locationOf, if_pos (List.contains_iff_mem.2 (mem_join_of_mem hnul))]
      rfl
    · rw [if_neg hnul, Disk.content, locationOf_join (h.name he) hshows.noNul hnul, hfollow, Except.bind]
      split
      · rfl
      · simp only [bind, Except.bind, he]
        cases e <;> rfl
  constructor
  · rintro ⟨hlisted, hc⟩
    obtain ⟨e, he⟩ := (listed_iff h).1 hlisted
    rw [hcontent he] at hc
    split at hc
    · cases hc
    · rename_i hnul
      split at hc
      · cases hc
      · rename_i hlength
        cases e with
        | directory => cases hc
        | file c' =>
          obtain rfl := Except.ok.inj hc
          exact ⟨he, hnul, Nat.not_lt.1 hlength⟩
  · rintro ⟨hshows, hnul, hlength⟩
    refine ⟨(listed_iff h).2 ⟨_, hshows⟩, ?_⟩
    rw [hcontent hshows, if_neg hnul, if_neg (Nat.not_lt.2 hlength)]
    rfl

section

variable (hsolid : d.Solid cwd) (hsolid' : d'.Solid cwd) (hextends : Extends d d')

include hsolid hsolid' hextends

theorem HoldsIn.extends {name : String} {c : Content} (h : d.HoldsIn cwd dir name c) :
    d'.HoldsIn cwd dir name c := by
  obtain ⟨hshows, hname⟩ := (holdsIn_iff hsolid).1 h
  exact (holdsIn_iff hsolid').2 ⟨hshows.extends hextends, hname⟩

variable (hpasses : Passes d d' (startAt cwd dir) (partsOf dir))

include hpasses

theorem HoldsIn.of_added {name : String} {c : Content} (h : d'.HoldsIn cwd dir name c) :
    d.HoldsIn cwd dir name c ∨ Adds d d' (place cwd dir ++ [name]) (.file c) := by
  obtain ⟨hshows, hname⟩ := (holdsIn_iff hsolid').1 h
  rcases hshows.of_added hsolid hextends hpasses with hshows | hadds
  · exact .inl ((holdsIn_iff hsolid).2 ⟨hshows, hname⟩)
  · exact .inr hadds

/-- Listing a directory fails on both disks alike, unless it is missing on one. -/
theorem list_error_of_added {cause : Cause} (hcause : cause ≠ .notFound) :
    d'.list cwd dir = .error cause ↔ d.list cwd dir = .error cause := by
  by_cases hdir : dir ≠ "" ∧ '\x00' ∉ dir.toList
  · rw [list_eq hsolid hdir.1 hdir.2, list_eq hsolid' hdir.1 hdir.2]
    rcases follow_of_added hsolid hextends hpasses with hsame | ⟨hmissing, hfound, -⟩
    · rw [hsame]
      cases d.follow (startAt cwd dir) (partsOf dir) <;> simp [Except.map]
    · simp [hmissing, hfound, Except.map, hcause.symm]
  · obtain ⟨cause', hlist⟩ := list_of_unusable (c := cwd) hdir
    rw [hlist d, hlist d']

end

end Files.Disk

/-! ## Units and junk -/

namespace Store

/-- The name is one of a unit, which is not hidden. -/
structure IsUnitName (name : String) : Prop where
  ne_empty : name ≠ ""
  noDot : name.toList.head? ≠ some '.'

/-- The text is the unit of the name in the directory: it is what the file of the unit holds, and it can be
read as a unit. -/
structure IsUnitIn (d : Disk) (cwd : Location) (dir name text : String) : Prop where
  named : IsUnitName name
  holds : d.HoldsIn cwd dir (name ++ ending) (.text text)
  parses : (SourceUnit.read? text).isSome = true

/-- The units in the directory can be collected: it can be listed or is missing, and the files that are named
like units hold texts. -/
structure Collectable (d : Disk) (cwd : Location) (dir : String) : Prop where
  listed : ∀ cause, cause ≠ .notFound → d.list cwd dir ≠ .error cause
  texts : ∀ name bytes, IsUnitName name → ¬ d.HoldsIn cwd dir (name ++ ending) (.binary bytes)

/-- **Junk** in a directory of units: directories, files with another ending or with a dot in front, and texts
that are no units. -/
inductive Junk (file : String) : Entry → Prop where
  | directory : Junk file .directory
  | extension {e : Entry} : ¬ ending.toList <:+ file.toList → Junk file e
  | hidden {e : Entry} : file.toList.head? = some '.' → Junk file e
  | unparsed {text : String} : SourceUnit.read? text = none → Junk file (.file (.text text))

/-- Only texts that are no units are junk under the name of a unit. -/
theorem Junk.of_unit {name : String} {c : Content} (h : Junk (name ++ ending) (.file c))
    (hname : IsUnitName name) : ∃ text, c = .text text ∧ SourceUnit.read? text = none := by
  cases h with
  | extension hending => exact absurd (by simp) hending
  | hidden hdot =>
    have hhead : (name ++ ending).toList.head? = name.toList.head? := by
      cases hlist : name.toList with
      | nil => exact absurd (String.toList_eq_nil_iff.1 hlist) hname.ne_empty
      | cons c cs => simp [hlist]
    exact absurd (hhead ▸ hdot) hname.noDot
  | unparsed hread => exact ⟨_, rfl, hread⟩

section

variable {d d' : Disk} {cwd : Location} {dir : String} (hsolid : d.Solid cwd) (hsolid' : d'.Solid cwd)
  (hextends : Extends d d') (hpasses : Passes d d' (startAt cwd dir) (partsOf dir))
  (hjunk : ∀ file e, Adds d d' (place cwd dir ++ [file]) e → Junk file e)

include hsolid hsolid' hextends hpasses hjunk

/-- **Junk is no unit.** A directory has the same units if all that was added right in it is junk. -/
theorem isUnitIn_congr {name text : String} :
    IsUnitIn d' cwd dir name text ↔ IsUnitIn d cwd dir name text := by
  constructor
  · intro ⟨hnamed, hholds, hparses⟩
    rcases hholds.of_added hsolid hsolid' hextends hpasses with hholds | hadds
    · exact ⟨hnamed, hholds, hparses⟩
    · obtain ⟨_, ht, hread⟩ := (hjunk _ _ hadds).of_unit hnamed
      obtain rfl := Content.text.inj ht
      simp [hread] at hparses
  · intro ⟨hnamed, hholds, hparses⟩
    exact ⟨hnamed, hholds.extends hsolid hsolid' hextends, hparses⟩

/-- **Junk can be collected**, with what it lies beside. -/
theorem collectable_congr : Collectable d' cwd dir ↔ Collectable d cwd dir := by
  constructor
  · intro ⟨hlisted, htexts⟩
    refine ⟨fun cause hcause => ?_, fun name bytes hnamed hholds => ?_⟩
    · rw [ne_eq, ← list_error_of_added hsolid hsolid' hextends hpasses hcause]
      exact hlisted cause hcause
    · exact htexts name bytes hnamed (hholds.extends hsolid hsolid' hextends)
  · intro ⟨hlisted, htexts⟩
    refine ⟨fun cause hcause => ?_, fun name bytes hnamed hholds => ?_⟩
    · rw [ne_eq, list_error_of_added hsolid hsolid' hextends hpasses hcause]
      exact hlisted cause hcause
    · rcases hholds.of_added hsolid hsolid' hextends hpasses with hholds | hadds
      · exact htexts name bytes hnamed hholds
      · obtain ⟨_, ht, -⟩ := (hjunk _ _ hadds).of_unit hnamed
        cases ht

end

end Store

end TypeFoundry
