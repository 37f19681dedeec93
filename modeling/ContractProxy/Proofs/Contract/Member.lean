import ContractProxy.Contract.Acceptance
import ContractProxy.Proofs.FirstFault

/-!
Which members a proxy can forward, what becomes of them, and the cause that a member gives for a
refusal. A method is checked name first, then its parameters from left to right, then its return
type.
-/

set_option autoImplicit false

namespace ContractProxy

def ContractMember.types : ContractMember → List TypeRef
  | .method _ parameters returns => parameters.map Parameter.type ++ returns.toList
  | .property _ type _ => [type]

namespace Contract

open Rejection (Cause)

theorem requireIdentifier_eq_ok_iff {name : Text} :
    requireIdentifier name = .ok () ↔ CSharp.isIdentifier name = true := by
  unfold requireIdentifier
  split_ifs with h <;> simp [h]

theorem requireIdentifier_eq_error_iff {name : Text} {cause : Cause} :
    requireIdentifier name = .error cause ↔
      CSharp.isIdentifier name = false ∧ cause = .invalidIdentifier name := by
  unfold requireIdentifier
  split_ifs with h <;> simp [h, eq_comm]

def typeCause (member : Text) : TypeRef.Fault → Cause
  | .invalid name => .invalidType member name
  | .rankTooLarge rank => .rankTooLarge member rank
  | .void => .voidType member

theorem requireType_eq_ok_iff {member : Text} {type : TypeRef} :
    requireType member type = .ok () ↔ type.check = .ok () := by
  unfold requireType
  cases h : type.check with
  | ok => simp
  | error fault => cases fault <;> simp

theorem requireType_eq_error_iff {member : Text} {type : TypeRef} {cause : Cause} :
    requireType member type = .error cause ↔
      ∃ fault, type.check = .error fault ∧ cause = typeCause member fault := by
  unfold requireType
  cases h : type.check with
  | ok => simp
  | error fault => cases fault <;> simp [typeCause, eq_comm]

structure SoundParameters (parameters : List Parameter) : Prop where
  each : ∀ parameter ∈ parameters,
    CSharp.isIdentifier parameter.name = true ∧ parameter.type.check = .ok ()
  distinct : (parameters.map Parameter.name).Nodup

theorem soundParameters_nil : SoundParameters [] :=
  ⟨by simp, by simp⟩

theorem soundParameters_cons {parameter : Parameter} {rest : List Parameter} :
    SoundParameters (parameter :: rest) ↔
      (CSharp.isIdentifier parameter.name = true ∧ parameter.type.check = .ok ()) ∧
        (∀ other ∈ rest, other.name ≠ parameter.name) ∧ SoundParameters rest := by
  constructor
  · intro h
    obtain ⟨heach, hdistinct⟩ := h
    rw [List.map_cons, List.nodup_cons] at hdistinct
    refine ⟨heach parameter (by simp), ?_, fun other ho => heach other (by simp [ho]), ?_⟩
    · intro other ho heq
      exact hdistinct.1 (List.mem_map.mpr ⟨other, ho, heq⟩)
    · exact hdistinct.2
  · intro h
    obtain ⟨hfirst, hne, heach, hdistinct⟩ := h
    refine ⟨List.forall_mem_cons.mpr ⟨hfirst, heach⟩, ?_⟩
    rw [List.map_cons, List.nodup_cons]
    refine ⟨?_, hdistinct⟩
    intro hm
    obtain ⟨other, ho, heq⟩ := List.mem_map.mp hm
    exact hne other ho heq

theorem checkParameters_cons_eq_ok_iff {method : Text} {seen : List Text} {parameter : Parameter}
    {rest : List Parameter} :
    checkParameters method seen (parameter :: rest) = .ok () ↔
      (CSharp.isIdentifier parameter.name = true ∧ parameter.type.check = .ok ()) ∧
        parameter.name ∉ seen ∧ checkParameters method (parameter.name :: seen) rest = .ok () := by
  rw [checkParameters, then_eq_ok_iff, then_eq_ok_iff, requireIdentifier_eq_ok_iff,
    requireType_eq_ok_iff, and_assoc]
  by_cases h : parameter.name ∈ seen
  · simp [h]
  · simp [h]

theorem checkParameters_eq_ok_iff {method : Text} {seen : List Text}
    {parameters : List Parameter} :
    checkParameters method seen parameters = .ok () ↔
      SoundParameters parameters ∧ ∀ parameter ∈ parameters, parameter.name ∉ seen := by
  induction parameters generalizing seen with
  | nil => simp [checkParameters, soundParameters_nil]
  | cons parameter rest ih =>
    rw [checkParameters_cons_eq_ok_iff, ih, soundParameters_cons, List.forall_mem_cons]
    constructor
    · intro h
      obtain ⟨hfirst, hnew, hrest, hall⟩ := h
      have hne : ∀ other ∈ rest, other.name ≠ parameter.name ∧ other.name ∉ seen := by
        intro other ho
        simpa using hall other ho
      exact ⟨⟨hfirst, fun other ho => (hne other ho).1, hrest⟩, hnew,
        fun other ho => (hne other ho).2⟩
    · intro h
      obtain ⟨⟨hfirst, hne, hrest⟩, hnew, hall⟩ := h
      refine ⟨hfirst, hnew, hrest, ?_⟩
      intro other ho
      simp [hne other ho, hall other ho]

/-- What is wrong with a parameter when the names seen are taken. -/
inductive ParameterFault (method : Text) (seen : List Text) (parameter : Parameter) :
    Cause → Prop where
  | name : CSharp.isIdentifier parameter.name = false →
      ParameterFault method seen parameter (.invalidIdentifier parameter.name)
  | type {fault : TypeRef.Fault} : CSharp.isIdentifier parameter.name = true →
      parameter.type.check = .error fault →
      ParameterFault method seen parameter (typeCause method fault)
  | duplicate : CSharp.isIdentifier parameter.name = true → parameter.type.check = .ok () →
      parameter.name ∈ seen →
      ParameterFault method seen parameter (.duplicateParameter method parameter.name)

theorem checkParameters_cons_eq_error_iff {method : Text} {seen : List Text}
    {parameter : Parameter} {rest : List Parameter} {cause : Cause} :
    checkParameters method seen (parameter :: rest) = .error cause ↔
      ParameterFault method seen parameter cause ∨
        (CSharp.isIdentifier parameter.name = true ∧ parameter.type.check = .ok ()) ∧
          parameter.name ∉ seen ∧
          checkParameters method (parameter.name :: seen) rest = .error cause := by
  rw [checkParameters, then_eq_error_iff, then_eq_error_iff, requireIdentifier_eq_error_iff,
    requireIdentifier_eq_ok_iff, requireType_eq_error_iff, requireType_eq_ok_iff]
  constructor
  · intro h
    rcases h with ⟨hname, rfl⟩ | ⟨hname, ⟨fault, htype, rfl⟩ | ⟨htype, hrest⟩⟩
    · exact .inl (.name hname)
    · exact .inl (.type hname htype)
    · by_cases h : parameter.name ∈ seen
      · simp only [List.contains_eq_mem, h, decide_true, if_true] at hrest
        cases hrest
        exact .inl (.duplicate hname htype h)
      · simp only [List.contains_eq_mem, h, decide_false, Bool.false_eq_true, if_false] at hrest
        exact .inr ⟨⟨hname, htype⟩, h, hrest⟩
  · intro h
    rcases h with hfault | ⟨⟨hname, htype⟩, hnew, hrest⟩
    · cases hfault with
      | name hname => exact .inl ⟨hname, rfl⟩
      | type hname htype => exact .inr ⟨hname, .inl ⟨_, htype, rfl⟩⟩
      | duplicate hname htype hseen => exact .inr ⟨hname, .inr ⟨htype, by simp [hseen]⟩⟩
    · exact .inr ⟨hname, .inr ⟨htype, by simpa [hnew] using hrest⟩⟩

theorem ParameterFault.mono {method : Text} {seen seen' : List Text} {parameter : Parameter}
    {cause : Cause} (h : parameter.name ∈ seen → parameter.name ∈ seen')
    (hfault : ParameterFault method seen parameter cause) :
    ParameterFault method seen' parameter cause := by
  cases hfault with
  | name hname => exact .name hname
  | type hname htype => exact .type hname htype
  | duplicate hname htype hseen => exact .duplicate hname htype (h hseen)

theorem checkParameters_eq_error_iff {method : Text} {seen : List Text}
    {parameters : List Parameter} {cause : Cause} :
    checkParameters method seen parameters = .error cause ↔
      ∃ before parameter after, parameters = before ++ parameter :: after ∧
        checkParameters method seen before = .ok () ∧
        ParameterFault method (before.map Parameter.name ++ seen) parameter cause := by
  induction parameters generalizing seen with
  | nil => simp [checkParameters]
  | cons parameter rest ih =>
    rw [checkParameters_cons_eq_error_iff, ih]
    constructor
    · intro h
      rcases h with hfault | ⟨hfirst, hnew, before, found, after, rfl, hbefore, hfault⟩
      · exact ⟨[], parameter, rest, rfl, rfl, hfault⟩
      · refine ⟨parameter :: before, found, after, rfl, ?_, ?_⟩
        · exact checkParameters_cons_eq_ok_iff.mpr ⟨hfirst, hnew, hbefore⟩
        · refine hfault.mono ?_
          intro hm
          simp only [List.mem_append, List.mem_cons] at hm
          simp only [List.map_cons, List.mem_append, List.mem_cons]
          tauto
    · intro h
      obtain ⟨before, found, after, heq, hbefore, hfault⟩ := h
      cases before with
      | nil =>
        obtain ⟨rfl, rfl⟩ := List.cons.inj heq
        exact .inl hfault
      | cons first before =>
        obtain ⟨rfl, rfl⟩ := List.cons.inj heq
        obtain ⟨hfirst, hnew, hrest⟩ := checkParameters_cons_eq_ok_iff.mp hbefore
        refine .inr ⟨hfirst, hnew, before, found, after, rfl, hrest, hfault.mono ?_⟩
        intro hm
        simp only [List.map_cons, List.mem_append, List.mem_cons] at hm
        simp only [List.mem_append, List.mem_cons]
        tauto

theorem isVoid_iff {type : TypeRef} :
    type.isVoid = true ↔ type = TypeRef.named TypeRef.voidName := by
  obtain ⟨name, arguments, rank⟩ := type
  simp only [TypeRef.isVoid, TypeRef.named, Bool.and_eq_true, beq_iff_eq, List.isEmpty_iff,
    TypeRef.mk.injEq]
  tauto

def Returnable : Option TypeRef → Prop
  | none => True
  | some type => type = TypeRef.named TypeRef.voidName ∨ type.check = .ok ()

def valueType (returns : Option TypeRef) : Option TypeRef :=
  returns.filter fun type => type ≠ TypeRef.named TypeRef.voidName

theorem valueType_of_ne {type : TypeRef} (h : type ≠ TypeRef.named TypeRef.voidName) :
    valueType (some type) = some type := by
  rw [valueType, Option.filter_some, if_pos (by simpa using h)]

theorem valueType_void : valueType (some (TypeRef.named TypeRef.voidName)) = none := by
  rw [valueType, Option.filter_some, if_neg (by simp)]

theorem returnedType_void (member : Text) :
    returnedType member (some (TypeRef.named TypeRef.voidName)) = .ok none := by
  rw [returnedType, if_pos (isVoid_iff.mpr rfl)]

theorem returnedType_of_ne {member : Text} {type : TypeRef}
    (h : type ≠ TypeRef.named TypeRef.voidName) :
    returnedType member (some type) = requireType member type >>= fun _ => .ok (some type) := by
  rw [returnedType, if_neg]
  rw [isVoid_iff]
  exact h

theorem returnedType_eq_ok_iff {member : Text} {returns result : Option TypeRef} :
    returnedType member returns = .ok result ↔ Returnable returns ∧ valueType returns = result := by
  cases returns with
  | none => simp [returnedType, Returnable, valueType]
  | some type =>
    by_cases h : type = TypeRef.named TypeRef.voidName
    · subst h
      rw [returnedType_void, valueType_void]
      simp [Returnable]
    · rw [returnedType_of_ne h, then_eq_ok_iff, requireType_eq_ok_iff, valueType_of_ne h]
      simp [Returnable, h]

theorem returnedType_eq_error_iff {member : Text} {returns : Option TypeRef} {cause : Cause} :
    returnedType member returns = .error cause ↔
      ∃ type fault, returns = some type ∧ type ≠ TypeRef.named TypeRef.voidName ∧
        type.check = .error fault ∧ cause = typeCause member fault := by
  cases returns with
  | none => simp [returnedType]
  | some type =>
    by_cases h : type = TypeRef.named TypeRef.voidName
    · subst h
      rw [returnedType_void]
      simp
    · rw [returnedType_of_ne h, then_eq_error_iff, requireType_eq_error_iff]
      simp [h]

inductive Expressible : Member → Prop where
  | method {name : Text} {parameters : List Parameter} {returns : Option TypeRef} {special : Bool} :
      CSharp.isIdentifier name = true → SoundParameters parameters → Returnable returns →
      Expressible (.method name parameters returns special)
  | property {name : Text} {type : TypeRef} {writable : Bool} :
      CSharp.isIdentifier name = true → type.check = .ok () →
      Expressible (.property name type true writable)

/-- What a declared member is in a contract: its name, its parameters and its types as they are, but
no return type where no value is returned. -/
inductive ForwardedAs : Member → ContractMember → Prop where
  | method (name : Text) (parameters : List Parameter) (returns : Option TypeRef)
      (special : Bool) :
      ForwardedAs (.method name parameters returns special)
        (.method name parameters (valueType returns))
  | property (name : Text) (type : TypeRef) (readable writable : Bool) :
      ForwardedAs (.property name type readable writable) (.property name type writable)

/-- The first cause for which a member is refused. -/
inductive Offence : Member → Cause → Prop where
  | methodName {name : Text} {parameters : List Parameter} {returns : Option TypeRef}
      {special : Bool} : CSharp.isIdentifier name = false →
      Offence (.method name parameters returns special) (.invalidIdentifier name)
  | parameter {name : Text} {before after : List Parameter} {parameter : Parameter}
      {returns : Option TypeRef} {special : Bool} {cause : Cause} :
      CSharp.isIdentifier name = true → SoundParameters before →
      ParameterFault name (before.map Parameter.name) parameter cause →
      Offence (.method name (before ++ parameter :: after) returns special) cause
  | returned {name : Text} {parameters : List Parameter} {type : TypeRef} {special : Bool}
      {fault : TypeRef.Fault} :
      CSharp.isIdentifier name = true → SoundParameters parameters →
      type ≠ TypeRef.named TypeRef.voidName → type.check = .error fault →
      Offence (.method name parameters (some type) special) (typeCause name fault)
  | propertyName {name : Text} {type : TypeRef} {readable writable : Bool} :
      CSharp.isIdentifier name = false →
      Offence (.property name type readable writable) (.invalidIdentifier name)
  | unreadable {name : Text} {type : TypeRef} {writable : Bool} :
      CSharp.isIdentifier name = true →
      Offence (.property name type false writable) (.writeOnlyProperty name)
  | propertyType {name : Text} {type : TypeRef} {writable : Bool} {fault : TypeRef.Fault} :
      CSharp.isIdentifier name = true → type.check = .error fault →
      Offence (.property name type true writable) (typeCause name fault)
  | event (name : Text) : Offence (.event name) (.unsupportedMember name "event")
  | field (name : Text) : Offence (.field name) (.unsupportedMember name "field")
  | constructor (name : Text) :
      Offence (.constructor name) (.unsupportedMember name "constructor")
  | nestedType (name : Text) :
      Offence (.nestedType name) (.unsupportedMember name "nested type")

theorem ofMember_eq_ok_iff {member : Member} {result : ContractMember} :
    ofMember member = .ok result ↔ Expressible member ∧ ForwardedAs member result := by
  cases member with
  | method name parameters returns special =>
    rw [ofMember, then_eq_ok_iff, then_eq_ok_iff, bind_eq_ok_iff, requireIdentifier_eq_ok_iff,
      checkParameters_eq_ok_iff]
    simp only [returnedType_eq_ok_iff]
    constructor
    · intro h
      obtain ⟨hname, ⟨hparameters, _⟩, _, ⟨hreturns, rfl⟩, hresult⟩ := h
      cases hresult
      exact ⟨.method hname hparameters hreturns, .method ..⟩
    · intro h
      obtain ⟨hexpressible, hforwarded⟩ := h
      cases hexpressible with
      | method hname hparameters hreturns =>
        cases hforwarded
        exact ⟨hname, ⟨hparameters, by simp⟩, _, ⟨hreturns, rfl⟩, rfl⟩
  | property name type readable writable =>
    rw [ofMember, then_eq_ok_iff, requireIdentifier_eq_ok_iff]
    cases readable with
    | false =>
      constructor
      · intro h
        obtain ⟨_, hresult⟩ := h
        cases hresult
      · intro h
        obtain ⟨⟨⟩, _⟩ := h
    | true =>
      simp only [Bool.not_true, Bool.false_eq_true, if_false]
      rw [then_eq_ok_iff, requireType_eq_ok_iff]
      constructor
      · intro h
        obtain ⟨hname, htype, hresult⟩ := h
        cases hresult
        exact ⟨.property hname htype, .property ..⟩
      · intro h
        obtain ⟨hexpressible, hforwarded⟩ := h
        cases hexpressible with
        | property hname htype =>
          cases hforwarded
          exact ⟨hname, htype, rfl⟩
  | event | field | constructor | nestedType =>
    constructor
    · intro hresult
      cases hresult
    · intro h
      obtain ⟨⟨⟩, _⟩ := h

theorem Expressible.exists_forwardedAs {member : Member} (h : Expressible member) :
    ∃ result, ForwardedAs member result := by
  cases h with
  | method => exact ⟨_, .method ..⟩
  | property => exact ⟨_, .property ..⟩

theorem ofMember_eq_error_iff {member : Member} {cause : Cause} :
    ofMember member = .error cause ↔ Offence member cause := by
  cases member with
  | method name parameters returns special =>
    rw [ofMember, then_eq_error_iff, then_eq_error_iff, bind_eq_error_iff,
      requireIdentifier_eq_error_iff, requireIdentifier_eq_ok_iff, checkParameters_eq_ok_iff,
      checkParameters_eq_error_iff, returnedType_eq_error_iff]
    constructor
    · intro h
      rcases h with ⟨hname, rfl⟩ | ⟨hname, hrest⟩
      · exact .methodName hname
      · rcases hrest with ⟨before, parameter, after, rfl, hbefore, hfault⟩ | ⟨hsound, hreturn⟩
        · rw [checkParameters_eq_ok_iff] at hbefore
          rw [List.append_nil] at hfault
          exact .parameter hname hbefore.1 hfault
        · rcases hreturn with ⟨type, fault, rfl, hne, htype, rfl⟩ | ⟨_, _, hresult⟩
          · exact .returned hname hsound.1 hne htype
          · cases hresult
    · intro hoffence
      cases hoffence with
      | methodName hname => exact .inl ⟨hname, rfl⟩
      | parameter hname hbefore hfault =>
        refine .inr ⟨hname, .inl ⟨_, _, _, rfl, ?_, by rwa [List.append_nil]⟩⟩
        exact checkParameters_eq_ok_iff.mpr ⟨hbefore, by simp⟩
      | returned hname hsound hne htype =>
        exact .inr ⟨hname, .inr ⟨⟨hsound, by simp⟩, .inl ⟨_, _, rfl, hne, htype, rfl⟩⟩⟩
  | property name type readable writable =>
    rw [ofMember, then_eq_error_iff, requireIdentifier_eq_error_iff, requireIdentifier_eq_ok_iff]
    cases readable with
    | false =>
      constructor
      · intro h
        rcases h with ⟨hname, rfl⟩ | ⟨hname, hresult⟩
        · exact .propertyName hname
        · cases hresult
          exact .unreadable hname
      · intro hoffence
        cases hoffence with
        | propertyName hname => exact .inl ⟨hname, rfl⟩
        | unreadable hname => exact .inr ⟨hname, rfl⟩
    | true =>
      simp only [Bool.not_true, Bool.false_eq_true, if_false]
      rw [then_eq_error_iff, requireType_eq_error_iff]
      constructor
      · intro h
        rcases h with ⟨hname, rfl⟩ | ⟨hname, ⟨fault, htype, rfl⟩ | ⟨_, hresult⟩⟩
        · exact .propertyName hname
        · exact .propertyType hname htype
        · cases hresult
      · intro hoffence
        cases hoffence with
        | propertyName hname => exact .inl ⟨hname, rfl⟩
        | propertyType hname htype => exact .inr ⟨hname, .inl ⟨_, htype, rfl⟩⟩
  | event | field | constructor | nestedType =>
    constructor
    · intro hresult
      cases hresult
      constructor
    · intro hoffence
      cases hoffence
      rfl

theorem ForwardedAs.check_of_mem_types {member : Member} {result : ContractMember}
    (h : ForwardedAs member result) {type : TypeRef} (hm : type ∈ result.types)
    (hexpressible : Expressible member) : type.check = .ok () := by
  cases hexpressible with
  | property hname htype =>
    cases h
    rw [ContractMember.types, List.mem_singleton] at hm
    exact hm ▸ htype
  | method hname hparameters hreturns =>
    cases h
    rw [ContractMember.types, List.mem_append] at hm
    rcases hm with hm | hm
    · obtain ⟨parameter, hp, rfl⟩ := List.mem_map.mp hm
      exact (hparameters.each parameter hp).2
    · obtain ⟨rfl, hvalue⟩ := Option.filter_eq_some_iff.mp (Option.mem_toList.mp hm)
      rcases hreturns with rfl | hcheck
      · simp at hvalue
      · exact hcheck

end Contract

end ContractProxy
