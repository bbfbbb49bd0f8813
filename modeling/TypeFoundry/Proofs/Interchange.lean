import Mathlib.Data.List.Nodup
import TypeFoundry.Proofs.JsonText
import TypeFoundry.Proofs.Messages
import TypeFoundry.Request
import TypeFoundry.Settings

/-!
# Requests and settings as JSON

Requests and settings are read back off the texts that they are written as. A request for a field can be
described by other values as well: `FieldRequest.IsWritten` says by which, and `FieldRequest.ofJson?_eq_some`
that these are the ones that are read as it. Whichever of them a request comes from, it is written in one way.
`values_survive` puts this together.
-/

set_option autoImplicit false

namespace TypeFoundry

/-! ## Records with known names -/

namespace Json

theorem Whole.record {members : List (String × Json)} (h : ∀ m ∈ members, Whole m.2) :
    Whole (record members) :=
  .object (List.forall_mem_map.2 h)

/-- **The values of a record** whose names are known and do not repeat. -/
theorem known?_record {names : List String} {members : List (String × Json)}
    (hnodup : (members.map (·.1)).Nodup) (hknown : ∀ m ∈ members, m.1 ∈ names) (strict : Bool) :
    (record members).known? names strict = some (names.map fun k => members.lookup k) := by
  have hfind : ∀ k, ((members.map fun m => (some m.1, m.2)).find? fun m => m.1 == some k).map (·.2) =
      members.lookup k := by
    intro k
    clear hnodup hknown
    induction members with
    | nil => rfl
    | cons m members ih =>
      obtain ⟨key, value⟩ := m
      by_cases hkey : k = key
      · simp [hkey]
      · simpa [List.lookup_cons, beq_false_of_ne hkey, Ne.symm hkey] using ih
  have hone : ∀ k, ((members.map fun m => (some m.1, m.2)).filter fun m => m.1 == some k).length ≤ 1 := by
    intro k
    have hcount := List.nodup_iff_count_le_one.1 hnodup k
    rw [List.count, List.countP_map] at hcount
    rw [← List.countP_eq_length_filter, List.countP_map]
    simpa [Function.comp_def] using hcount
  simp only [record, known?, hfind]
  rw [if_pos]
  simp only [Bool.and_eq_true, List.all_eq_true, decide_eq_true_eq]
  exact ⟨List.forall_mem_map.2 fun m hm => by simp [hknown m hm], fun k _ => hone k⟩

end Json

/-! ## Requests -/

namespace FieldKind

theorem ofLabel?_eq_some {s : String} {k : FieldKind} : ofLabel? s = some k ↔ s = k.label := by
  constructor
  · intro h
    have hlabel := List.find?_some h
    exact (eq_of_beq hlabel).symm
  · rintro rfl
    cases k <;> rfl

/-- The value names the kind: alone, or as the name of a single member, which is null. -/
inductive IsNamed (k : FieldKind) : Json → Prop where
  | alone : IsNamed k (.text k.label)
  | member : IsNamed k (.object [(some k.label, .null)])

theorem ofJson?_eq_some {j : Json} {k : FieldKind} : ofJson? j = some k ↔ k.IsNamed j := by
  constructor
  · intro h
    unfold ofJson? at h
    split at h
    · rw [ofLabel?_eq_some.1 h]
      exact .alone
    · rw [ofLabel?_eq_some.1 h]
      exact .member
    · cases h
  · rintro (_ | _)
    · exact ofLabel?_eq_some.2 rfl
    · exact ofLabel?_eq_some.2 rfl

end FieldKind

namespace FieldRequest

/-- What a request for a field is written with. -/
abbrev names : List String := ["name", "kind", "referenceType"]

/-- The value is the request. The target may be missing or null. -/
structure IsWritten (r : FieldRequest) (j : Json) : Prop where
  record : j.IsRecord names
  name : j.Has names "name" (.text r.name)
  kind : ∃ v, j.Has names "kind" v ∧ r.kind.IsNamed v
  target : (r.target = none ∧ ∀ v, j.Has names "referenceType" v → v = .null) ∨
    ∃ t, r.target = some t ∧ j.Has names "referenceType" (.text t)

/-- **The requests are read** off the values that they are written as. -/
theorem ofJson?_eq_some {j : Json} {r : FieldRequest} : ofJson? j = some r ↔ r.IsWritten j := by
  have hnames : names.Nodup := by decide
  have hvalues : ∀ {x y z : Option Json}, j.known? names false = some [x, y, z] →
      j.IsRecord names ∧ (∀ v, x = some v ↔ j.Has names "name" v) ∧
        (∀ v, y = some v ↔ j.Has names "kind" v) ∧ ∀ v, z = some v ↔ j.Has names "referenceType" v := by
    intro x y z hknown
    obtain ⟨hrecord, -, hhas⟩ := Json.known?_eq_some hnames hknown
    exact ⟨hrecord, by simpa using hhas 0 "name" rfl, by simpa using hhas 1 "kind" rfl,
      by simpa using hhas 2 "referenceType" rfl⟩
  constructor
  · intro h
    unfold ofJson? at h
    split at h
    · rename_i name kind target hknown
      obtain ⟨hrecord, hname, hkind, htarget⟩ := hvalues hknown
      simp only [Option.bind_eq_bind, Option.bind_eq_some_iff, Option.pure_def, Option.some.injEq,
        Json.text?_eq_some, FieldKind.ofJson?_eq_some] at h
      obtain ⟨n, rfl, k, hk, t, ht, rfl⟩ := h
      exact ⟨hrecord, (hname _).1 rfl, ⟨kind, (hkind _).1 rfl, hk⟩,
        (Json.optional?_getD_eq_some htarget).1 ht⟩
    · cases h
  · intro h
    obtain ⟨vs, hknown⟩ := Json.isSome_known? h.record
    obtain ⟨x, y, z, rfl⟩ := List.length_eq_three.1 (Json.known?_eq_some hnames hknown).2.1
    obtain ⟨-, hname, hkind, htarget⟩ := hvalues hknown
    obtain ⟨v, hv, hnamed⟩ := h.kind
    obtain rfl := (hname _).2 h.name
    obtain rfl := (hkind _).2 hv
    rw [ofJson?, hknown]
    simp [FieldKind.ofJson?_eq_some.2 hnamed, (Json.optional?_getD_eq_some htarget).2 h.target, Json.text?,
      Json.text]

theorem whole_toJson (r : FieldRequest) : r.toJson.Whole := by
  refine .record fun m hm => ?_
  rcases List.mem_append.1 hm with hm | hm
  · simp only [List.mem_cons, List.not_mem_nil, or_false] at hm
    rcases hm with rfl | rfl <;> exact .string _
  · obtain ⟨target, -, rfl⟩ := Option.map_eq_some_iff.1 (Option.mem_toList.1 hm)
    exact .string _

/-- A member for the target is written just if there is one. -/
theorem mem_toJson (r : FieldRequest) : ∃ members, r.toJson = .object members ∧
    ∀ v, (some "referenceType", v) ∈ members ↔ ∃ t, r.target = some t ∧ v = .text t := by
  refine ⟨_, rfl, fun v => ?_⟩
  cases r.target with
  | none => simp
  | some target => simp

/-- A request is written as what describes it. -/
theorem ofJson?_toJson (r : FieldRequest) : ofJson? r.toJson = some r := by
  obtain ⟨name, kind, target⟩ := r
  have hkind : FieldKind.ofJson? (.text kind.label) = some kind := FieldKind.ofJson?_eq_some.2 .alone
  cases target with
  | none =>
    rw [ofJson?, toJson, Option.map_none, Option.toList_none, Json.known?_record (by simp) (by simp)]
    simp [List.lookup_cons, hkind]
    rfl
  | some target =>
    rw [ofJson?, toJson, Option.map_some, Option.toList_some, Json.known?_record (by simp) (by simp)]
    simp [List.lookup_cons, hkind]
    rfl

end FieldRequest

namespace TypeRequest

theorem whole_toJson (r : TypeRequest) : r.toJson.Whole :=
  .record fun m hm => by
    rw [List.mem_singleton.1 hm]
    exact .string _

theorem ofJson?_toJson (r : TypeRequest) : ofJson? r.toJson = some r := by
  rw [ofJson?, toJson, Json.known?_record (by simp) (by simp)]
  simp
  rfl

end TypeRequest

/-! ## Settings -/

namespace Settings

theorem whole_toJson (s : Settings) : s.toJson.Whole := by
  refine .record fun m hm => ?_
  simp only [List.mem_cons, List.not_mem_nil, or_false] at hm
  rcases hm with rfl | rfl | rfl | rfl | rfl | rfl | rfl
  · exact .string _
  · exact .string _
  · exact .string _
  · exact .string _
  · exact .natural _
  · exact .bool _
  · exact .array (List.forall_mem_map.2 fun dir _ => .string _)

theorem ofJson?_toJson (toolchain : String) (s : Settings) : ofJson? toolchain s.toJson = some s := by
  have hdirs : Json.list? Json.text? (.array (s.staticDirs.map .text)) = some s.staticDirs := by
    refine Json.list?_eq_some.2 ⟨_, rfl, ?_⟩
    rw [List.forall₂_map_left_iff, List.forall₂_same]
    exact fun dir _ => rfl
  have hlevel : Json.natural? 256 (.natural s.level.toNat) = some s.level.toNat :=
    Json.natural?_eq_some.2 ⟨rfl, s.level.toNat_lt⟩
  rw [ofJson?, toJson, Json.known?_record (by simp) (by simp [keys])]
  simp [keys, List.lookup_cons, valueOr, hdirs, hlevel]
  rfl

end Settings

/-! ## There and back -/

/-- The value is read back off both texts that it is written as. -/
def Survives {α : Type} (toJson : α → Json) (ofJson? : Json → Option α) (a : α) : Prop :=
  (Json.read? (toJson a).compact).bind ofJson? = some a ∧
    (Json.read? (toJson a).pretty).bind ofJson? = some a

theorem survives_of_whole {α : Type} {toJson : α → Json} {ofJson? : Json → Option α} {a : α}
    (hwhole : (toJson a).Whole) (hread : ofJson? (toJson a) = some a) : Survives toJson ofJson? a := by
  rw [Survives, Json.read?_compact hwhole, Json.read?_pretty hwhole]
  exact ⟨hread, hread⟩

/-- **Requests and settings survive their JSON form**, whatever texts they hold. A request for a field is
read off the texts that it is described by, in whichever of the accepted ways, and from each of them it
survives as well: it is written with a member for the target just if it has a target. -/
theorem values_survive :
    (∀ r, Survives TypeRequest.toJson TypeRequest.ofJson? r) ∧
    (∀ r, Survives FieldRequest.toJson FieldRequest.ofJson? r) ∧
    (∀ toolchain s, Survives Settings.toJson (Settings.ofJson? toolchain) s) ∧
    ∀ text r,
      ((Json.read? text).bind FieldRequest.ofJson? = some r ↔
        ∃ j, Json.read? text = some j ∧ r.IsWritten j) ∧
      ((Json.read? text).bind FieldRequest.ofJson? = some r →
        Survives FieldRequest.toJson FieldRequest.ofJson? r ∧
        ∃ members, Json.read? r.toJson.compact = some (.object members) ∧
          ∀ v, (some "referenceType", v) ∈ members ↔ ∃ t, r.target = some t ∧ v = .text t) := by
  have hfield : ∀ r, Survives FieldRequest.toJson FieldRequest.ofJson? r := fun r =>
    survives_of_whole r.whole_toJson r.ofJson?_toJson
  refine ⟨fun r => survives_of_whole r.whole_toJson r.ofJson?_toJson, hfield,
    fun toolchain s => survives_of_whole s.whole_toJson (s.ofJson?_toJson toolchain),
    fun text r => ⟨?_, fun _ => ⟨hfield r, ?_⟩⟩⟩
  · simp only [Option.bind_eq_some_iff, FieldRequest.ofJson?_eq_some]
  · obtain ⟨members, hmembers, htarget⟩ := r.mem_toJson
    exact ⟨members, by rw [Json.read?_compact r.whole_toJson, hmembers], htarget⟩

/-- A request in an unusual form: the names in another order, with an escape in a text and with a name that is
not known, the kind as an object, and an empty target. -/
def unusualRequest : String :=
  "\x7b \"kind\": \x7b\"Reference\": null\x7d, \"x\": [1, \x7b\"y\": 2e1\x7d],\n" ++
  "  \"referenceType\": \"\", \"name\": \"D\\u0065pt\" \x7d"

theorem values_survive_unusual :
    (Json.read? unusualRequest).bind FieldRequest.ofJson? = some ⟨"Dept", .reference, some ""⟩ ∧
    Survives FieldRequest.toJson FieldRequest.ofJson? ⟨"Dept", .reference, some ""⟩ ∧
    ∃ members, Json.read? (FieldRequest.toJson ⟨"Dept", .reference, some ""⟩).compact =
      some (.object members) ∧ (some "referenceType", .text "") ∈ members := by
  have hread : (Json.read? unusualRequest).bind FieldRequest.ofJson? =
      some ⟨"Dept", .reference, some ""⟩ := by decide +kernel
  obtain ⟨hsurvives, members, hwritten, htarget⟩ := (values_survive.2.2.2 unusualRequest _).2 hread
  exact ⟨hread, hsurvives, members, hwritten, (htarget _).2 ⟨"", rfl, rfl⟩⟩

end TypeFoundry
