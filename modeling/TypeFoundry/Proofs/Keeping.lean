import TypeFoundry.Proofs.Names
import TypeFoundry.Proofs.Readers

/-!
# What readers leave behind

A reader that is run on words which satisfy `P` leaves only such words (`Keeps`). That holds of all
readers, from the smallest to that of items (`keeps_itemFrom`): they take tokens from the front, and
go back only to where they were before. What is read inside a group does not matter to what is left
behind it.
-/

set_option autoImplicit false

namespace TypeFoundry.Source.Reader

/-- The reader leaves only words that satisfy `P`, if it is run on such words. -/
class Keeps (P : String → Prop) {α : Type} (r : Reader α) : Prop where
  left : ∀ {ts ts' : Tokens} {a : α}, WordsSatAll P ts → r ts = .ok (a, ts') → WordsSatAll P ts'

variable {P : String → Prop} {α β : Type}

/-! ## Readers in sequence -/

theorem Keeps.bind {r : Reader α} {f : α → Reader β} (hr : Keeps P r) (hf : ∀ a, Keeps P (f a)) :
    Keeps P (r >>= f) where
  left hts h := by
    rw [run_bind] at h
    split at h
    · rename_i a ts' hfirst
      exact (hf a).left (hr.left hts hfirst) h
    · cases h

instance (r : Reader α) (f : α → Reader β) [Keeps P r] [∀ a, Keeps P (f a)] : Keeps P (r >>= f) :=
  Keeps.bind inferInstance inferInstance

instance (a : α) : Keeps P (pure a : Reader α) where
  left hts h := by
    cases h
    exact hts

instance (f : α → β) (r : Reader α) [hr : Keeps P r] : Keeps P (f <$> r) where
  left hts h := by
    rw [run_map] at h
    split at h
    · rename_i a ts' hfirst
      cases h
      exact hr.left hts hfirst
    · cases h

instance (r : Reader α) (s : Reader β) [hr : Keeps P r] [hs : Keeps P s] : Keeps P (r *> s) where
  left hts h := by
    rw [run_seqRight] at h
    split at h
    · rename_i a ts' hfirst
      exact hs.left (hr.left hts hfirst) h
    · cases h

theorem Keeps.ite {c : Prop} [Decidable c] {r s : Reader α} (hr : Keeps P r) (hs : Keeps P s) :
    Keeps P (if c then r else s) := by
  split <;> assumption

instance (c : Prop) [Decidable c] (r s : Reader α) [Keeps P r] [Keeps P s] :
    Keeps P (if c then r else s) :=
  Keeps.ite inferInstance inferInstance

/-- Which reader is run may depend on the tokens. -/
theorem Keeps.of_tokens {f : Tokens → Reader α} (h : ∀ ts, Keeps P (f ts)) :
    Keeps P (fun ts => f ts ts) where
  left hts hr := (h _).left hts hr

/-- Tokens that were seen have words that satisfy `P`. -/
theorem Keeps.of_rest {f : Tokens → Reader α} (h : ∀ ts, WordsSatAll P ts → Keeps P (f ts)) :
    Keeps P (rest >>= f) where
  left hts hr := (h _ hts).left hts hr

/-- A reader may go back to tokens that were seen. -/
theorem keeps_set {ts : Tokens} (h : WordsSatAll P ts) : Keeps P (set ts : Reader Unit) where
  left _ hr := by
    cases hr
    exact h

instance : Keeps P (stop : Reader α) where
  left _ h := by cases h

instance (ts : Tokens) : Keeps P (fun _ => stop ts : Reader α) where
  left _ h := by cases h

instance (ts : Tokens) : Keeps P ((set ts : Reader Unit) >>= fun _ => (stop : Reader α)) where
  left _ h := by cases h

/-! ## Looking at tokens -/

instance : Keeps P rest where
  left hts h := by
    cases h
    exact hts

instance (p : Tokens → Bool) : Keeps P (sees p) := by unfold sees; infer_instance

instance : Keeps P isDone := by unfold isDone; infer_instance

instance (r : Reader α) [hr : Keeps P r] : Keeps P (attempt r) where
  left hts h := by
    unfold attempt at h
    split at h
    · rename_i a ts' hfirst
      cases h
      exact hr.left hts hfirst
    · cases h
      exact hts

instance (r : Reader α) [hr : Keeps P r] : Keeps P (spelled r) where
  left hts h := by
    unfold spelled at h
    split at h
    · rename_i a ts' hfirst
      cases h
      exact hr.left hts hfirst
    · cases h

/-! ## Taking tokens -/

theorem wordsSatAll_afterMarks {cs : List Char} {ts ts' : Tokens} (hts : WordsSatAll P ts)
    (h : afterMarks cs ts = some ts') : WordsSatAll P ts' := by
  induction cs generalizing ts with
  | nil => cases h
  | cons c cs ih =>
    unfold afterMarks at h
    split at h
    · cases h
    · split at h
      · cases h
        exact hts.2
      · cases h
    · rename_i hcs
      obtain ⟨rfl, rfl⟩ := List.cons.inj hcs
      split at h
      · exact ih hts.2 h
      · cases h
    · cases h

instance (text : String) : Keeps P (operator text) where
  left hts h := by
    unfold operator at h
    split at h
    · rename_i hafter
      cases h
      exact wordsSatAll_afterMarks hts hafter
    · cases h

instance (text : String) : Keeps P (operator? text) := by unfold operator?; infer_instance

instance (w : String) : Keeps P (keyword w) where
  left hts h := by
    unfold keyword at h
    split at h
    · split at h
      · cases h
        exact hts.2
      · cases h
    · cases h

instance (w : String) : Keeps P (keyword? w) := by unfold keyword?; infer_instance

instance : Keeps P anyWord where
  left hts h := by
    unfold anyWord at h
    split at h
    · cases h
      exact hts.2
    · cases h

instance (words : List String) : Keeps P (nameOr words) where
  left hts h := by
    unfold nameOr at h
    split at h
    · split at h
      · cases h
      · cases h
        exact hts.2
    · cases h

instance : Keeps P name where
  left hts h := by
    unfold name at h
    split at h
    · split at h
      · cases h
      · cases h
        exact hts.2
    · cases h

instance : Keeps P lifetime where
  left hts h := by
    unfold lifetime at h
    split at h
    · cases h
      exact hts.2.2
    · cases h

instance : Keeps P literal where
  left hts h := by
    unfold literal at h
    split at h
    · cases h
      exact hts.2
    · split at h
      · cases h
        exact hts.2
      · cases h
    · cases h

instance (d : Delimiter) (inner : Reader α) : Keeps P (group d inner) where
  left hts h := by
    unfold group at h
    split at h
    · split at h
      · split at h
        · cases h
          exact hts.2
        · cases h
        · cases h
      · cases h
    · cases h

instance : Keeps P anyGroup where
  left hts h := by
    unfold anyGroup at h
    split at h
    · cases h
      exact hts.2
    · cases h

instance (r : Reader α) : Keeps P (nextOnly r) where
  left hts h := by
    unfold nextOnly at h
    split at h
    · split at h
      · cases h
        exact hts.2
      · cases h
      · cases h
    · cases h

/-! ## Lists -/

instance (p : Tokens → Bool) (r : Reader α) [Keeps P r] (fuel : Nat) :
    Keeps P (manyWhile p r fuel) := by
  induction fuel <;> unfold manyWhile <;> infer_instance

instance (r : Reader α) [Keeps P r] : Keeps P (many r) := by
  unfold many
  exact Keeps.of_tokens fun _ => inferInstance

instance (closes : Tokens → Bool) (sep : String) (r : Reader α) [Keeps P r] (fuel : Nat) :
    Keeps P (listUntil closes sep r fuel) := by
  induction fuel <;> unfold listUntil <;> infer_instance

instance (r : Reader α) [Keeps P r] : Keeps P (commaList r) where
  left hts h := by
    unfold commaList at h
    split at h
    · cases h
      exact hts
    · exact Keeps.left hts h

instance (r : Reader α) [Keeps P r] : Keeps P (angleList r) where
  left hts h := by
    unfold angleList at h
    split at h
    · cases h
      exact hts
    · exact Keeps.left hts h

/-! ## Attributes -/

instance (fuel : Nat) : Keeps P (nameList fuel) := by
  induction fuel <;> unfold nameList <;> infer_instance

instance : Keeps P namePath := by unfold namePath; infer_instance

section

variable (constant : Reader Unit)

instance : Keeps P (innerAttribute constant) := by unfold innerAttribute; infer_instance

instance : Keeps P (outerAttribute constant) := by unfold outerAttribute; infer_instance

instance : Keeps P (innerAttributes constant) := by
  unfold innerAttributes
  exact Keeps.of_tokens fun _ => inferInstance

instance : Keeps P (outerAttributes constant) := by
  unfold outerAttributes
  exact Keeps.of_tokens fun _ => inferInstance

end

/-! ## Types -/

instance : Keeps P segmentName := by unfold segmentName; infer_instance

instance (fuel : Nat) : Keeps P (lifetimeBounds fuel) := by
  induction fuel <;> unfold lifetimeBounds <;> infer_instance

instance : Keeps P lifetimeParam := by unfold lifetimeParam; infer_instance

instance : Keeps P binder := by unfold binder; infer_instance

instance : Keeps P abi := by unfold abi; infer_instance

section

variable (constant : Reader Unit)

instance : Keeps P (constantArg constant) := by unfold constantArg; infer_instance

/-- What the readers of types leave, where they call each other so deep. -/
structure KeepsTypes (P : String → Prop) (constant : Reader Unit) (n : Nat) : Prop where
  ty : ∀ isOpen, Keeps P (ty constant n isOpen)
  parenTy : ∀ isOpen, Keeps P (parenTy constant n isOpen)
  functionTy : ∀ lifetimes, Keeps P (functionTy constant n lifetimes)
  output : Keeps P (output constant n)
  pathTy : Keeps P (pathTy constant n)
  callArguments : ∀ segments, Keeps P (callArguments constant n segments)
  projection : ∀ isExpr, Keeps P (projection constant n isExpr)
  path : ∀ isExpr, Keeps P (path constant n isExpr)
  moreSegments : ∀ isExpr, Keeps P (moreSegments constant n isExpr)
  segment : ∀ isExpr, Keeps P (segment constant n isExpr)
  angled : Keeps P (angled constant n)
  genericArg : Keeps P (genericArg constant n)
  bound : Keeps P (bound constant n)
  traitBound : Keeps P (traitBound constant n)
  bounds : ∀ isOpen, Keeps P (bounds constant n isOpen)
  moreBounds : Keeps P (moreBounds constant n)

theorem keepsTypes (n : Nat) : KeepsTypes P constant n := by
  induction n with
  | zero => constructor <;> intros <;> exact inferInstanceAs (Keeps P stop)
  | succ n ih =>
    obtain ⟨_, _, _, _, _, _, _, _, _, _, _, _, _, _, _, _⟩ := ih
    constructor
    case ty =>
      intro isOpen
      unfold Reader.ty
      repeat' first | infer_instance | apply Keeps.bind | apply Keeps.ite | intro _ | split
    case parenTy =>
      intro isOpen
      unfold Reader.parenTy
      repeat' first | infer_instance | apply Keeps.bind | apply Keeps.ite | intro _ | split
    case functionTy => intro lifetimes; unfold Reader.functionTy; infer_instance
    case output => unfold Reader.output; infer_instance
    case pathTy => unfold Reader.pathTy; infer_instance
    case callArguments =>
      intro segments
      unfold Reader.callArguments
      dsimp only
      repeat' first | infer_instance | apply Keeps.bind | apply Keeps.ite | intro _ | split
    case projection =>
      intro isExpr
      unfold Reader.projection
      repeat' first | infer_instance | apply Keeps.bind | apply Keeps.ite | intro _
    case path => intro isExpr; unfold Reader.path; infer_instance
    case moreSegments => intro isExpr; unfold Reader.moreSegments; infer_instance
    case segment => intro isExpr; unfold Reader.segment; infer_instance
    case angled => unfold Reader.angled; infer_instance
    case genericArg =>
      unfold Reader.genericArg
      repeat' first | infer_instance | apply Keeps.bind | apply Keeps.ite | intro _ | split
    case bound => unfold Reader.bound; infer_instance
    case traitBound =>
      unfold Reader.traitBound
      repeat' first | infer_instance | apply Keeps.bind | apply Keeps.ite | intro _ | split
    case bounds => intro isOpen; unfold Reader.bounds; infer_instance
    case moreBounds => unfold Reader.moreBounds; infer_instance

instance (n : Nat) (isOpen : Bool) : Keeps P (ty constant n isOpen) := (keepsTypes constant n).ty _

instance (n : Nat) (isExpr : Bool) : Keeps P (path constant n isExpr) := (keepsTypes constant n).path _

instance (n : Nat) (isExpr : Bool) : Keeps P (projection constant n isExpr) :=
  (keepsTypes constant n).projection _

instance (n : Nat) : Keeps P (angled constant n) := (keepsTypes constant n).angled

instance (n : Nat) : Keeps P (bound constant n) := (keepsTypes constant n).bound

/-! ## Patterns -/

instance : Keeps P memberName where
  left hts h := by
    unfold memberName at h
    split at h
    · split at h
      · cases h
        exact hts.2
      · cases h
    · exact Keeps.left hts h

instance : Keeps P patternLiteral := by unfold patternLiteral; infer_instance

/-- What the readers of patterns leave, where they call each other so deep. -/
structure KeepsPatterns (P : String → Prop) (constant : Reader Unit) (n : Nat) : Prop where
  pattern : Keeps P (pattern constant n)
  rangePattern : ∀ lower, Keeps P (rangePattern constant n lower)
  recordPattern : ∀ p, Keeps P (recordPattern constant n p)
  patternAlternatives : Keeps P (patternAlternatives constant n)

theorem keepsPatterns (n : Nat) : KeepsPatterns P constant n := by
  induction n with
  | zero => constructor <;> intros <;> exact inferInstanceAs (Keeps P stop)
  | succ n ih =>
    obtain ⟨_, _, _, _⟩ := ih
    constructor
    case pattern =>
      unfold Reader.pattern
      repeat' first | infer_instance | apply Keeps.bind | apply Keeps.ite | intro _
    case rangePattern => intro lower; unfold Reader.rangePattern; infer_instance
    case recordPattern => intro p; unfold Reader.recordPattern; infer_instance
    case patternAlternatives => unfold Reader.patternAlternatives; infer_instance

instance (n : Nat) : Keeps P (pattern constant n) := (keepsPatterns constant n).pattern

instance (n : Nat) : Keeps P (patternAlternatives constant n) :=
  (keepsPatterns constant n).patternAlternatives

end

/-! ## Expressions -/

section

variable (item : Reader Unit)

/-- What the readers of expressions leave, where they call each other so deep. -/
structure KeepsExprs (P : String → Prop) (item : Reader Unit) (n : Nat) : Prop where
  expr : ∀ isFree, Keeps P (expr item n isFree)
  climb : ∀ isFree level e, Keeps P (climb item n isFree level e)
  operand : ∀ isFree level, Keeps P (operand item n isFree level)
  operandRest : ∀ isFree level e, Keeps P (operandRest item n isFree level e)
  rangeEnd : ∀ isFree isClosed, Keeps P (rangeEnd item n isFree isClosed)
  unary : ∀ isFree, Keeps P (unary item n isFree)
  trailer : ∀ e, Keeps P (trailer item n e)
  atom : ∀ isFree, Keeps P (atom item n isFree)
  optional : ∀ isFree, Keeps P (optional item n isFree)
  labelled : ∀ label, Keeps P (labelled item n label)
  conditional : Keeps P (conditional item n)
  closure : ∀ isFree, Keeps P (closure item n isFree)
  parameter : Keeps P (parameter item n)
  pathExpr : ∀ isFree, Keeps P (pathExpr item n isFree)
  block : Keeps P (block item n)

theorem keepsExprs (n : Nat) : KeepsExprs P item n := by
  induction n with
  | zero =>
    constructor <;> intros <;>
      first
        | exact inferInstanceAs (Keeps P stop)
        | exact inferInstanceAs (Keeps P (pure _))
  | succ n ih =>
    obtain ⟨_, _, _, _, _, _, _, _, _, _, _, _, _, _, _⟩ := ih
    constructor
    case expr => intro isFree; unfold Reader.expr; infer_instance
    case climb =>
      intro isFree level e
      unfold Reader.climb
      repeat' first | infer_instance | apply Keeps.bind | apply Keeps.ite | intro _ | split
    case operand => intro isFree level; unfold Reader.operand; infer_instance
    case operandRest => intro isFree level e; unfold Reader.operandRest; infer_instance
    case rangeEnd => intro isFree isClosed; unfold Reader.rangeEnd; infer_instance
    case unary => intro isFree; unfold Reader.unary; infer_instance
    case trailer =>
      intro e
      unfold Reader.trailer
      repeat' first | infer_instance | apply Keeps.bind | apply Keeps.ite | intro _ | split
    case atom =>
      intro isFree
      unfold Reader.atom
      dsimp only
      repeat' first | infer_instance | apply Keeps.bind | apply Keeps.ite | intro _
    case optional => intro isFree; unfold Reader.optional; infer_instance
    case labelled =>
      intro label
      unfold Reader.labelled
      repeat' first | infer_instance | apply Keeps.bind | apply Keeps.ite | intro _
    case conditional => unfold Reader.conditional; infer_instance
    case closure =>
      intro isFree
      unfold Reader.closure
      dsimp only
      repeat' first | infer_instance | apply Keeps.bind | apply Keeps.ite | intro _
    case parameter => unfold Reader.parameter; infer_instance
    case pathExpr => intro isFree; unfold Reader.pathExpr; infer_instance
    case block => unfold Reader.block; infer_instance

instance (n : Nat) (isFree : Bool) : Keeps P (expr item n isFree) := (keepsExprs item n).expr _

end

/-! ## Items -/

instance : Keeps P visibility := by
  unfold visibility
  repeat' first | infer_instance | apply Keeps.bind | apply Keeps.ite | intro _ | split

section

variable (item : Reader Unit)

instance : Keeps P (anyTy item) := by
  unfold anyTy
  exact Keeps.of_tokens fun _ => inferInstance

instance : Keeps P (anyBound item) := by
  unfold anyBound
  exact Keeps.of_tokens fun _ => inferInstance

instance : Keeps P (anyExpr item) := by
  unfold anyExpr
  exact Keeps.of_tokens fun _ => inferInstance

instance : Keeps P (attributes item) := by unfold attributes; infer_instance

instance (closes : Tokens → Bool) (fuel : Nat) : Keeps P (boundList item closes fuel) := by
  induction fuel <;> unfold boundList <;> infer_instance

instance : Keeps P (genericParam item) := by
  unfold genericParam
  dsimp only
  repeat' first | infer_instance | apply Keeps.bind | apply Keeps.ite | intro _

instance : Keeps P (genericParams item) := by unfold genericParams; infer_instance

instance (fuel : Nat) : Keeps P (predicateLifetimes fuel) := by
  induction fuel <;> unfold predicateLifetimes <;> infer_instance

instance : Keeps P (predicate item) := by unfold predicate; infer_instance

instance (fuel : Nat) : Keeps P (predicates item fuel) := by
  induction fuel <;> unfold predicates <;> infer_instance

instance : Keeps P (whereClause item) := by unfold whereClause; infer_instance

instance : Keeps P (field item) := by unfold field; infer_instance

instance : Keeps P (namedFields item) := by unfold namedFields; infer_instance

instance : Keeps P (unnamedFields item) := by unfold unnamedFields; infer_instance

instance (attrs : List Attribute) : Keeps P (structDecl item attrs) := by
  unfold structDecl
  infer_instance

instance (attrs : List Attribute) : Keeps P (enumDecl item attrs) := by
  unfold enumDecl
  infer_instance

instance (fuel : Nat) : Keeps P (useTree fuel) := by
  induction fuel <;> unfold useTree <;>
    repeat' first | infer_instance | apply Keeps.bind | apply Keeps.ite | intro _

instance (attrs : List Attribute) : Keeps P (useDecl attrs) := by unfold useDecl; infer_instance

instance : Keeps P (signature item) := by
  unfold signature
  dsimp only
  infer_instance

instance : Keeps P (functionBody item) := by unfold functionBody; infer_instance

instance : Keeps P (initial item) := by unfold initial; infer_instance

instance : Keeps P macroCall := by
  unfold macroCall
  dsimp only
  infer_instance

instance (place : Enclosure) : Keeps P (members item place) := by unfold members; infer_instance

instance (start : Tokens) : Keeps P (unfinished start) := by unfold unfinished; infer_instance

instance (attrs : List Attribute) : Keeps P (implementation item attrs) := by
  unfold implementation
  dsimp only
  repeat' first | infer_instance | apply Keeps.bind | apply Keeps.ite | intro _

instance (attrs : List Attribute) : Keeps P (traitDecl item attrs) := by
  unfold traitDecl
  dsimp only
  repeat' first | infer_instance | apply Keeps.bind | apply Keeps.ite | intro _

instance (attrs : List Attribute) (afterVisibility : Tokens) :
    Keeps P (declaration item attrs afterVisibility) := by
  unfold declaration
  dsimp only
  repeat' first | infer_instance | apply Keeps.bind | apply Keeps.ite | intro _ | split

end

/-- **The reader of items** leaves only words that satisfy `P`. -/
instance keeps_itemFrom (n : Nat) : Keeps P (itemFrom n) := by
  cases n with
  | zero => exact inferInstanceAs (Keeps P stop)
  | succ n =>
    unfold itemFrom
    dsimp only
    -- an item that is no module is read again from its visibility on
    refine Keeps.bind inferInstance fun attrs => Keeps.of_rest fun start hstart => ?_
    have hset : Keeps P (set start : Reader Unit) := keeps_set hstart
    repeat' first | infer_instance | apply Keeps.bind | apply Keeps.ite | intro _

instance : Keeps P anyItem := by
  unfold anyItem
  exact Keeps.of_tokens fun _ => inferInstance

end TypeFoundry.Source.Reader
