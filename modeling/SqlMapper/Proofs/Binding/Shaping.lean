import SqlMapper.Proofs.Binding.Calling

namespace SqlMapper

open Fallible

inductive HoldsCount (count : Int) : DeclaredType → Output → Prop where
  | void : HoldsCount count .void .unit
  | boolean {type : DeclaredType} (h : type.scalarKind = some .boolean) :
      HoldsCount count type (.bool (0 < count))
  | int {type : DeclaredType} (h : type.scalarKind = some .int) : HoldsCount count type (.int count)
  | long {type : DeclaredType} (h : type.scalarKind = some .long) : HoldsCount count type (.int count)

/-- The type holds its rows in a plain list: it is no array, and either a collection that a list is or
none that is known. -/
def DeclaredType.IsListed (collections : CollectionFactory) (type : DeclaredType) : Prop :=
  (∀ element, type ≠ .array element) ∧
    (collections.isCollection type = false ∨
      ∃ kind element, type = .collection kind element ∧ kind.acceptsList = true)

/-- What a select answers, by the shape of its results. Many rows come as the type that is declared
for them. -/
inductive HasShape (collections : CollectionFactory) (type : DeclaredType) :
    ReturnShape → Output → Prop where
  | void : HasShape collections type .void .unit
  | list (items : List Value) (h : type.IsListed collections) :
      HasShape collections type .many (.list items)
  | array (items : List Value) {element : DeclaredType} (h : type = .array element) :
      HasShape collections type .many (.array items)
  | collection (items : DeclaredCollection) {made : DeclaredCollection}
      (h : collections.isCollection type = true) (hmade : collections.create type = .ok made)
      (hkind : items.kind = made.kind)
      (hlist : ¬ type.IsListed collections) : HasShape collections type .many (.collection items)
  | map (key : String) (groups : Grouping) : HasShape collections type (.map key) (.map groups)
  | cursor (c : Cursor) : HasShape collections type .cursor (.cursor c)
  | absent : HasShape collections type .optional (.optional none)
  | present (v : Value) (h : v ≠ .null) : HasShape collections type .optional (.optional (some v))
  | scalar (v : Value) : HasShape collections type .scalar (.value v)

theorem DeclaredCollection.kind_addAll (c : DeclaredCollection) (items : List Value) :
    (c.addAll items).kind = c.kind := by
  unfold addAll
  induction items generalizing c with
  | nil => rfl
  | cons item items ih =>
    rw [List.foldl_cons, ih, add]
    split <;> rfl

namespace DeclaredType

variable {type : DeclaredType} {collections : CollectionFactory} {output : Output}

theorem holdsCount_of_ofRowCount {count : Int} (h : type.ofRowCount count = .ok output) :
    HoldsCount count type output := by
  unfold ofRowCount at h
  split at h
  · cases h
    exact .void
  · next hkind =>
    cases h
    exact .boolean hkind
  · next hkind =>
    cases h
    exact .int hkind
  · next hkind =>
    cases h
    exact .long hkind
  · cases h

theorem hasShape_of_ofCollected {rows : List Value}
    (h : type.ofCollected collections rows = .ok output) (harray : ∀ element, type ≠ .array element)
    (hlist : ∀ kind element, type = .collection kind element → kind.acceptsList = false) :
    HasShape collections type .many output := by
  unfold ofCollected at h
  split at h
  · next hcollection =>
    obtain ⟨made, hmade, h⟩ := ok_of_except_bind_ok h
    cases h
    refine .collection _ hcollection hmade (made.kind_addAll rows) ?_
    rintro ⟨-, hnone | ⟨kind, element, htype, haccepts⟩⟩
    · exact absurd hcollection (Bool.eq_false_iff.mp hnone)
    · exact absurd haccepts (Bool.eq_false_iff.mp (hlist kind element htype))
  · next hcollection =>
    cases h
    exact .list rows ⟨harray, .inl (Bool.eq_false_iff.mpr hcollection)⟩

theorem hasShape_of_ofRows {rows : List Value} (h : type.ofRows collections rows = .ok output) :
    HasShape collections type .many output := by
  unfold ofRows at h
  split at h
  · obtain ⟨items, -, h⟩ := ok_of_except_bind_ok h
    cases h
    exact .array items rfl
  · cases h
    exact .array rows rfl
  · next kind element =>
    split at h
    · next hlist =>
      cases h
      exact .list rows ⟨nofun, .inr ⟨kind, element, rfl, hlist⟩⟩
    · next hlist =>
      refine hasShape_of_ofCollected h nofun ?_
      rintro _ _ ⟨⟩
      exact Bool.eq_false_iff.mpr hlist
  · next hprimitive harray hcollection =>
    exact hasShape_of_ofCollected h harray fun _ _ htype => (hcollection _ _ htype).elim

theorem hasShape_ofOptional (row : Option Value) :
    HasShape collections type .optional (ofOptional row) := by
  unfold ofOptional
  cases hrow : row.filter fun v => !v.isNull with
  | none => exact .absent
  | some v =>
    have hv : v.isNull = false := by simpa using (Option.filter_eq_some_iff.1 hrow).2
    refine .present v ?_
    rintro rfl
    cases hv

theorem checkNull_eq_ok {command : String} (h : type.checkNull command output = .ok ())
    (hprimitive : type.isPrimitive = true) : output ≠ .value .null := by
  rintro rfl
  rw [checkNull, if_pos hprimitive] at h
  cases h

end DeclaredType

theorem ReturnShape.of_primitive {collections : CollectionFactory} (mapKey : Option String)
    {type : DeclaredType} (h : type.isPrimitive = true)
    (hcollection : collections.isCollection type = false) : of collections mapKey type = .scalar := by
  cases type with
  | primitive kind => simp [of, hcollection]
  | _ => cases h

namespace Binder

variable {registered config : Configuration} {c declaring : Contract} {m : Method} {b : Binder}
  {arguments written : List Argument} {u v : Scope} {output : Output}

/-- What a call that left `v` may answer: the row count of its mutation as the return type, what has
the shape of its select, or the results of a flush. -/
def Answers (config : Configuration) (b : Binder) (arguments : List Argument) (u v : Scope)
    (output : Output) : Prop :=
  match b.command.kind with
  | .insert | .update | .delete =>
    ∃ p count, b.signature.names.pack arguments = .ok p ∧
      (Session.mutate config b.command.display).outcome { u with parameter := p } =
        (.ok count, v) ∧
      HoldsCount count b.signature.returnType output
  | .select => HasShape config.collections b.signature.returnType b.signature.shape output
  | .flush => ∃ results, output = .batch results
  | .unknown => False

theorem hasShape_of_runSelect (h : (runSelect config b arguments).outcome u = (.ok output, v)) :
    HasShape config.collections b.signature.returnType b.signature.shape output := by
  unfold runSelect at h
  dsimp only at h
  cases hshape : b.signature.shape with
  | void =>
    rw [hshape] at h
    dsimp only at h
    split at h <;>
    · obtain ⟨_, _, -, h⟩ := ok_of_bind_ok h
      cases h
      exact .void
  | many =>
    rw [hshape] at h
    obtain ⟨rows, _, -, h⟩ := ok_of_bind_ok h
    rw [outcome_ending] at h
    exact DeclaredType.hasShape_of_ofRows (Prod.mk.inj h).1
  | map key =>
    rw [hshape] at h
    obtain ⟨groups, _, -, h⟩ := ok_of_bind_ok h
    cases h
    exact .map key groups
  | cursor =>
    rw [hshape] at h
    obtain ⟨cursor, _, -, h⟩ := ok_of_bind_ok h
    cases h
    exact .cursor cursor
  | optional =>
    rw [hshape] at h
    obtain ⟨row, _, -, h⟩ := ok_of_bind_ok h
    cases h
    exact DeclaredType.hasShape_ofOptional row
  | scalar =>
    rw [hshape] at h
    obtain ⟨row, _, -, h⟩ := ok_of_bind_ok h
    cases h
    exact .scalar (row.getD .null)

theorem answers_of_call (h : (b.call config arguments).outcome u = (.ok (.ok output, written), v)) :
    b.Answers config arguments u v output := by
  obtain ⟨p, hp, hrun, -, -⟩ := call_ok h
  have hmutation : b.command.kind.isMutation = true → ∃ p count,
      b.signature.names.pack arguments = .ok p ∧
      (Session.mutate config b.command.display).outcome { u with parameter := p } =
        (.ok count, v) ∧
      HoldsCount count b.signature.returnType output := by
    intro hkind
    obtain ⟨count, hmutate, hcount⟩ := mutate_of_run hkind hrun
    exact ⟨p, count, hp, hmutate, DeclaredType.holdsCount_of_ofRowCount hcount⟩
  unfold run at hrun
  unfold Answers
  cases hkind : b.command.kind with
  | insert | update | delete => exact hmutation (by rw [hkind]; rfl)
  | select =>
    rw [hkind] at hrun
    exact hasShape_of_runSelect hrun
  | flush =>
    rw [hkind] at hrun
    obtain ⟨results, _, -, hrun⟩ := ok_of_bind_ok hrun
    cases hrun
    exact ⟨results, rfl⟩
  | unknown =>
    rw [hkind] at hrun
    cases hrun

theorem call_of_run {p : Parameter} (hcheck : b.checkArguments arguments = .ok ())
    (hpack : b.signature.names.pack arguments = .ok p)
    (hrun : (run config b arguments).outcome { u with parameter := p } = (.ok output, v)) :
    (b.call config arguments).outcome u =
      (.ok ((b.signature.returnType.checkNull b.command.display output).map fun _ => output,
        b.signature.names.writeBack v.parameter arguments), v) := by
  unfold call
  rw [hcheck]
  dsimp only
  rw [hpack]
  dsimp only
  rw [SessionM.outcome_setParameter_bind, SessionM.outcome_attempt_bind, hrun]
  dsimp only
  rw [SessionM.outcome_parameter_bind]
  cases b.signature.returnType.checkNull b.command.display output <;> rfl

theorem run_of_selectOne {row : Option Value} (hkind : b.command.kind = .select)
    (hshape : b.signature.shape = .scalar) (arguments : List Argument)
    (h : (Session.selectOne config b.command.display).outcome u = (.ok row, v)) :
    (run config b arguments).outcome u = (.ok (.value (row.getD .null)), v) := by
  unfold run runSelect
  rw [hkind]
  dsimp only
  rw [hshape]
  exact outcome_bind_of_ok h

/-- A call that answers has an answer of the declared shape. Where the declared type is primitive, that
is never null: a select that comes to no row or to a null one is refused then, unless the type was taken
for a collection, and the arguments have what it wrote. -/
theorem call_shape (hb : Binder.of registered c declaring m = .ok b) (config : Configuration)
    (arguments : List Argument) (u : Scope) :
    b.signature.returnType = c.returnType declaring m ∧
    b.signature.shape = .of registered.collections m.mapKey b.signature.returnType ∧
    (∀ output written v,
      (b.call config arguments).outcome u = (.ok (.ok output, written), v) →
        b.Answers config arguments u v output ∧
        (b.signature.returnType.isPrimitive = true → output ≠ .value .null)) ∧
    (∀ p row v, b.checkArguments arguments = .ok () →
      b.signature.names.pack arguments = .ok p → b.command.kind = .select →
      b.signature.returnType.isPrimitive = true →
      registered.collections.isCollection b.signature.returnType = false →
      (Session.selectOne config b.command.display).outcome { u with parameter := p } =
        (.ok row, v) →
      row.getD .null = .null →
        (b.call config arguments).outcome u =
          (.ok (.error (.nullIntoPrimitive b.command.display b.signature.returnType),
            b.signature.names.writeBack v.parameter arguments), v)) := by
  obtain ⟨-, hsignature, -⟩ := of_ok hb
  obtain ⟨htype, hshape, -⟩ := Signature.of_ok hsignature
  refine ⟨htype, hshape, ?_, ?_⟩
  · intro output written v hcall
    obtain ⟨_, _, _, hnull, _⟩ := call_ok hcall
    exact ⟨answers_of_call hcall, DeclaredType.checkNull_eq_ok hnull⟩
  · intro p row v hcheck hpack hkind hprimitive hcollection hrow hnull
    have hscalar : b.signature.shape = .scalar := by
      rw [hshape, ReturnShape.of_primitive _ hprimitive hcollection]
    have hrun := run_of_selectOne hkind hscalar arguments hrow
    rw [hnull] at hrun
    rw [call_of_run hcheck hpack hrun, DeclaredType.checkNull, if_pos hprimitive]
    rfl

end Binder

def keyMethod : Method where
  name := "key"
  returns := .primitive .int
  parameters := [⟨"id", none, .value .any⟩]
  mapKey := none
  flushes := false

def keyContract : Contract := .mk "M" [] [] [keyMethod]

def keyBinder : Binder where
  name := "M.key"
  command := ⟨some "M.key", .select⟩
  signature :=
    { shape := .scalar
      returnType := .primitive .int
      boundsIndex := none
      handlerIndex := none
      arity := 1
      names := ⟨[(0, "id")], false⟩ }

def keyScope (rows : List (List Value)) (p : Parameter) : Scope :=
  { keyedScope with
    database := .ofScript (Script.empty.respond "SELECT 7" (.ofRows ["n"] rows))
    parameter := p }

def keyRow (rows : List (List Value)) : Option (Option Value) :=
  ((Session.selectOne (keyedConfig "id") "M.key").outcome
    (keyScope rows (.single (.int 1)))).1.toOption

def isAnswered : Except Error (Except Error Output × List Argument) × Scope → Bool
  | (.ok (.ok _, _), _) => true
  | _ => false

theorem exists_of_isAnswered {r : Except Error (Except Error Output × List Argument) × Scope}
    (h : isAnswered r = true) : ∃ output written v, r = (.ok (.ok output, written), v) := by
  unfold isAnswered at h
  split at h
  · exact ⟨_, _, _, rfl⟩
  · cases h

/-- A key that is there is answered as a value, and none is refused. -/
theorem missing_key_refused :
    (∃ n written v, (keyBinder.call (keyedConfig "id") [.value (.int 1)]).outcome
      (keyScope [[.int 7]] .absent) = (.ok (.ok (.value n), written), v) ∧ n ≠ .null) ∧
    ∃ written v, (keyBinder.call (keyedConfig "id") [.value (.int 1)]).outcome
      (keyScope [] .absent) =
        (.ok (.error (.nullIntoPrimitive "M.key" (.primitive .int)), written), v) := by
  have hb : Binder.of (keyedConfig "id") keyContract keyContract keyMethod = .ok keyBinder := rfl
  constructor
  · have hanswered : isAnswered ((keyBinder.call (keyedConfig "id") [.value (.int 1)]).outcome
        (keyScope [[.int 7]] .absent)) = true := by decide +kernel
    obtain ⟨output, written, v, hcall⟩ := exists_of_isAnswered hanswered
    obtain ⟨-, -, hanswers, -⟩ :=
      Binder.call_shape hb (keyedConfig "id") [.value (.int 1)] (keyScope [[.int 7]] .absent)
    obtain ⟨hshape, hnull⟩ := hanswers output written v hcall
    cases hshape with
    | scalar n => exact ⟨n, written, v, hcall, fun hn => hnull rfl (by rw [hn])⟩
  · have hrow : keyRow [] = some none := by decide +kernel
    obtain ⟨-, -, -, hrefused⟩ :=
      Binder.call_shape hb (keyedConfig "id") [.value (.int 1)] (keyScope [] .absent)
    rcases hselect : (Session.selectOne (keyedConfig "id") "M.key").outcome
      (keyScope [] (.single (.int 1))) with ⟨e | row, v⟩ <;> rw [keyRow, hselect] at hrow
    · cases hrow
    · cases hrow
      exact ⟨_, v, hrefused (.single (.int 1)) none v rfl rfl rfl rfl rfl hselect rfl⟩

end SqlMapper
