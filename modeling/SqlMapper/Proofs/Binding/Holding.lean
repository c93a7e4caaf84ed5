import SqlMapper.Proofs.Binding.Shaping
import SqlMapper.Proofs.Result.Grouping

namespace SqlMapper

open Fallible

inductive PrimitiveKind.Converts : PrimitiveKind → Value → Value → Prop where
  | boolean (b : Bool) : Converts .boolean (.bool b) (.bool b)
  | integral {kind : PrimitiveKind} (h : kind.isIntegral = true) (n : Int64) :
    Converts kind (.int n) (.int n)
  | floating {kind : PrimitiveKind} (h : kind = .float ∨ kind = .double) (x : Binary64) :
    Converts kind (.float x) (.float x)
  | widened {kind : PrimitiveKind} (h : kind = .float ∨ kind = .double) (n : Int64) :
    Converts kind (.int n) (.float (.ofInt n.toInt))
  | char {s : String} (h : s.length = 1) : Converts .char (.string s) (.string s)

namespace CollectionFactory

/-- Takes just the types that have a kind for collections, and makes empty ones of the kind. -/
structure Recognizes (f : CollectionFactory) (named : String → Option CollectionKind) : Prop where
  isCollection : ∀ type, f.isCollection type = (kindOf named type).isSome
  create : ∀ type kind, kindOf named type = some kind → f.create type = .ok (.empty kind)

theorem recognizes_naming (named : String → Option CollectionKind) :
    (naming named).Recognizes named where
  isCollection _ := rfl
  create type kind h := by
    unfold naming
    dsimp only
    rw [h]

theorem recognizes_standard : standard.Recognizes fun _ => none := recognizes_naming _

end CollectionFactory

/-- How a type that holds many has the rows, where `named` tells which named types are collections. -/
inductive HoldsRows (named : String → Option CollectionKind) :
    DeclaredType → List Value → Except Error Output → Prop where
  | converted {kind : PrimitiveKind} {rows items : List Value}
    (h : List.Forall₂ kind.Converts rows items) :
    HoldsRows named (.array (.primitive kind)) rows (.ok (.array items))
  | unconverted {kind : PrimitiveKind} {before : List Value} {row : Value} {after : List Value}
    (fine : ∀ b ∈ before, ∃ item, kind.Converts b item) (fails : ∀ item, ¬ kind.Converts row item) :
    HoldsRows named (.array (.primitive kind)) (before ++ row :: after)
      (.error (.coercion (.element row.typeName kind)))
  | array {element : DeclaredType} (h : element.isPrimitive = false) (rows : List Value) :
    HoldsRows named (.array element) rows (.ok (.array rows))
  | list {kind : CollectionKind} (h : kind.acceptsList = true) (element : DeclaredType)
    (rows : List Value) : HoldsRows named (.collection kind element) rows (.ok (.list rows))
  | collection {type : DeclaredType} {kind : CollectionKind}
    (h : CollectionFactory.kindOf named type = some kind)
    (unlisted : ∀ element, type = .collection kind element → kind.acceptsList = false)
    (hkind : kind ≠ .set) (rows : List Value) :
    HoldsRows named type rows (.ok (.collection ⟨kind, rows⟩))
  | set {type : DeclaredType} (h : CollectionFactory.kindOf named type = some .set)
    {rows items : List Value} (distinct : Value.Distinct rows items) :
    HoldsRows named type rows (.ok (.collection ⟨.set, items⟩))

namespace DeclaredCollection

theorem addAll_of_ne_set {c : DeclaredCollection} (h : c.kind ≠ .set) (items : List Value) :
    c.addAll items = ⟨c.kind, c.items ++ items⟩ := by
  induction items generalizing c with
  | nil => simp [addAll]
  | cons item items ih =>
    have hadd : c.add item = ⟨c.kind, c.items ++ [item]⟩ := by simp [add, h]
    have hrest := ih (c := c.add item) (by simpa [hadd] using h)
    rw [hadd] at hrest
    rw [addAll, List.foldl_cons, hadd]
    simpa [addAll] using hrest

theorem addAll_set (items : List Value) :
    (empty .set).addAll items = ⟨.set, Value.firsts items⟩ := by
  induction items using List.reverseRecOn with
  | nil => rfl
  | append_singleton items item ih =>
    rw [addAll] at ih
    rw [addAll, List.foldl_append, ih, Value.firsts_concat, ← Value.any_firsts]
    by_cases h : (Value.firsts items).any (·.equals item) = true <;> simp [add, h]

end DeclaredCollection

namespace DeclaredType

variable {collections : CollectionFactory} {named : String → Option CollectionKind}
  {type : DeclaredType}

theorem toPrimitive_eq_ok_iff {kind : PrimitiveKind} {v w : Value} :
    toPrimitive kind v = .ok w ↔ kind.Converts v w := by
  constructor
  · intro h
    unfold toPrimitive at h
    split at h
    · cases h
      exact .boolean _
    · cases h
      exact .integral rfl _
    · cases h
      exact .integral rfl _
    · cases h
      exact .integral rfl _
    · cases h
      exact .integral rfl _
    · cases h
      exact .floating (.inl rfl) _
    · cases h
      exact .floating (.inr rfl) _
    · cases h
      exact .widened (.inl rfl) _
    · cases h
      exact .widened (.inr rfl) _
    · split at h <;> cases h
      exact .char ‹_›
    · cases h
  · intro h
    cases h with
    | boolean b => rfl
    | integral hkind n => cases kind <;> first | rfl | cases hkind
    | floating hkind x => obtain rfl | rfl := hkind <;> rfl
    | widened hkind n => obtain rfl | rfl := hkind <;> rfl
    | char hlength => simp [toPrimitive, hlength]

theorem toPrimitive_error {kind : PrimitiveKind} {v : Value} {e : Error}
    (h : toPrimitive kind v = .error e) : e = .coercion (.element v.typeName kind) := by
  unfold toPrimitive at h
  repeat' split at h
  all_goals cases h
  all_goals rfl

theorem mapM_toPrimitive_holdsRows (named : String → Option CollectionKind) (kind : PrimitiveKind)
    (rows : List Value) :
    HoldsRows named (.array (.primitive kind)) rows
      ((rows.mapM (toPrimitive kind)).map .array) := by
  obtain ⟨items, hitems, h⟩ | ⟨before, row, after, e, rfl, hbefore, hrow, he⟩ :=
    except_mapM_cases (toPrimitive kind) rows
  · rw [hitems]
    exact .converted (h.imp fun _ _ => toPrimitive_eq_ok_iff.mp)
  · rw [he, toPrimitive_error hrow]
    refine .unconverted (fun b hb => ?_) fun item hitem => ?_
    · obtain ⟨item, hitem⟩ := hbefore b hb
      exact ⟨item, toPrimitive_eq_ok_iff.mp hitem⟩
    · rw [toPrimitive_eq_ok_iff.mpr hitem] at hrow
      cases hrow

theorem addAll_holdsRows {kind : CollectionKind}
    (h : CollectionFactory.kindOf named type = some kind)
    (unlisted : ∀ element, type = .collection kind element → kind.acceptsList = false)
    (rows : List Value) :
    HoldsRows named type rows (.ok (.collection ((DeclaredCollection.empty kind).addAll rows))) := by
  by_cases hkind : kind = .set
  · subst hkind
    rw [DeclaredCollection.addAll_set]
    exact .set h (Value.distinct_firsts rows)
  · rw [DeclaredCollection.addAll_of_ne_set hkind]
    exact .collection h unlisted hkind rows

theorem ofCollected_holdsRows {kind : CollectionKind} (hf : collections.Recognizes named)
    (h : CollectionFactory.kindOf named type = some kind)
    (unlisted : ∀ element, type = .collection kind element → kind.acceptsList = false)
    (rows : List Value) : HoldsRows named type rows (type.ofCollected collections rows) := by
  have hof : type.ofCollected collections rows =
      .ok (.collection ((DeclaredCollection.empty kind).addAll rows)) := by
    rw [ofCollected, hf.isCollection, hf.create type kind h, h]
    rfl
  rw [hof]
  exact addAll_holdsRows h unlisted rows

theorem ofRows_holdsRows {mapKey : Option String} (hf : collections.Recognizes named)
    (hmany : ReturnShape.of collections mapKey type = .many) (rows : List Value) :
    HoldsRows named type rows (type.ofRows collections rows) := by
  cases type with
  | array element =>
    by_cases h : element.isPrimitive = true
    · cases element with
      | primitive kind => exact mapM_toPrimitive_holdsRows named kind rows
      | _ => cases h
    · cases element with
      | primitive kind => exact absurd rfl h
      | _ => exact .array rfl rows
  | collection kind element =>
    by_cases h : kind.acceptsList = true
    · rw [ofRows, if_pos h]
      exact .list h element rows
    · rw [ofRows, if_neg h]
      exact ofCollected_holdsRows hf rfl (fun _ _ => Bool.eq_false_iff.mpr h) rows
  | named name =>
    cases hkind : CollectionFactory.kindOf named (.named name) with
    | none => simp [ReturnShape.of, hf.isCollection, hkind] at hmany
    | some kind => exact ofCollected_holdsRows hf hkind (fun _ hother => by cases hother) rows
  | map key value => cases mapKey <;> simp [ReturnShape.of, hf.isCollection, CollectionFactory.kindOf] at hmany
  | _ => simp [ReturnShape.of, hf.isCollection, CollectionFactory.kindOf] at hmany

theorem checkNull_of_ofRows {rows : List Value} {output : Output} (command : String)
    (h : type.ofRows collections rows = .ok output) : type.checkNull command output = .ok () := by
  have hshape := hasShape_of_ofRows h
  cases hshape <;> rfl

end DeclaredType

namespace Binder

variable {config : Configuration} {b : Binder} {arguments : List Argument} {p : Parameter}
  {u v : Scope} {rows : List Value}

theorem run_of_selectList (hkind : b.command.kind = .select) (hshape : b.signature.shape = .many)
    (h : (Session.selectList config b.command.display (b.signature.rowBounds arguments)).outcome u =
      (.ok rows, v)) :
    (run config b arguments).outcome u =
      (b.signature.returnType.ofRows config.collections rows, v) := by
  unfold run runSelect
  rw [hkind]
  dsimp only
  rw [hshape]
  exact outcome_bind_of_ok h

theorem call_of_run_error {e : Error} (hcheck : b.checkArguments arguments = .ok ())
    (hpack : b.signature.names.pack arguments = .ok p)
    (hrun : (run config b arguments).outcome { u with parameter := p } = (.error e, v)) :
    (b.call config arguments).outcome u = (.ok (.error e, arguments), v) := by
  unfold call
  rw [hcheck]
  dsimp only
  rw [hpack]
  dsimp only
  rw [SessionM.outcome_setParameter_bind, SessionM.outcome_attempt_bind, hrun]
  rfl

/-- A type that holds many has the rows as they came, and a call that declares it answers so: in a list,
an array or a deque they are all there, in order; in an array of a primitive kind each is converted, or
the first that cannot be is the error; in a set a row is left out if it equals one kept before it. -/
theorem many_holds_rows {named : String → Option CollectionKind}
    (hf : config.collections.Recognizes named) {type : DeclaredType} {mapKey : Option String}
    (hmany : ReturnShape.of config.collections mapKey type = .many) (rows : List Value) :
    HoldsRows named type rows (type.ofRows config.collections rows) ∧
    ∀ (b : Binder) (arguments : List Argument) (p : Parameter) (u v : Scope),
      b.checkArguments arguments = .ok () →
      b.signature.names.pack arguments = .ok p → b.command.kind = .select →
      b.signature.shape = .many → b.signature.returnType = type →
      (Session.selectList config b.command.display (b.signature.rowBounds arguments)).outcome
        { u with parameter := p } = (.ok rows, v) →
      ∃ written, (b.call config arguments).outcome u =
        (.ok (type.ofRows config.collections rows, written), v) := by
  refine ⟨DeclaredType.ofRows_holdsRows hf hmany rows, ?_⟩
  rintro b arguments p u v hcheck hpack hkind hshape rfl hrows
  have hrun := run_of_selectList hkind hshape hrows
  cases hanswer : b.signature.returnType.ofRows config.collections rows with
  | error e =>
    rw [hanswer] at hrun
    exact ⟨arguments, call_of_run_error hcheck hpack hrun⟩
  | ok output =>
    rw [hanswer] at hrun
    have hcall := call_of_run hcheck hpack hrun
    rw [DeclaredType.checkNull_of_ofRows _ hanswer] at hcall
    exact ⟨_, hcall⟩

end Binder

def readingsConfig : Configuration :=
  { smallConfig with
    registry := .insert .empty
      { smallCommand "M.readings" .select "SELECT x" with resultType := some "float" } }

def readingsBinder : Binder where
  name := "M.readings"
  command := ⟨some "M.readings", .select⟩
  signature :=
    { shape := .many
      returnType := .collection .set .any
      boundsIndex := none
      handlerIndex := none
      arity := 0
      names := ⟨[], false⟩ }

def readingsScope : Scope :=
  { unevenScope with
    database := .ofScript (Script.empty.respond "SELECT x" (.ofRows ["x"] (unevenKeys.map ([·])))) }

/-- Of the two zeros the set has the first; what is not a number is there each time. -/
theorem second_zero_omitted :
    ∃ written v, (readingsBinder.call readingsConfig []).outcome readingsScope =
        (.ok (.ok (.collection ⟨.set, [.float (.ofInt 0), .float notANumber, .float notANumber]⟩),
          written), v) ∧
      HoldsRows (fun _ => none) (.collection .set .any) unevenKeys
        (.ok (.collection ⟨.set, [.float (.ofInt 0), .float notANumber, .float notANumber]⟩)) := by
  have hmany : ReturnShape.of readingsConfig.collections none (.collection .set .any) = .many := rfl
  have hrows : (Session.selectList readingsConfig "M.readings" .all).outcome readingsScope =
      (.ok unevenKeys,
        ((Session.selectList readingsConfig "M.readings" .all).outcome readingsScope).2) := rfl
  have hset : (DeclaredType.collection .set .any).ofRows readingsConfig.collections unevenKeys =
      .ok (.collection ⟨.set, [.float (.ofInt 0), .float notANumber, .float notANumber]⟩) := by
    rfl
  obtain ⟨hholds, hcalls⟩ := Binder.many_holds_rows CollectionFactory.recognizes_standard hmany unevenKeys
  obtain ⟨written, hcall⟩ :=
    hcalls readingsBinder [] .absent readingsScope _ rfl rfl rfl rfl rfl hrows
  rw [hset] at hholds hcall
  exact ⟨written, _, hcall, hholds⟩

end SqlMapper
