import ContractProxy.Proofs.Proxy.Mark
import ContractProxy.Proofs.Proxy.Options
import ContractProxy.Proofs.Proxy.Unit

/-!
The skeleton of a rendered file: the marks of its lines, which are known from the kinds of the
members alone. No name in the metadata or in the configuration adds a line, a bracket or a quote.
-/

set_option autoImplicit false

namespace ContractProxy

open CSharp (marks marks_append marks_intercalate marks_escaped)

inductive MemberShape where
  | method (returns : Bool)
  | property (writable : Bool)
  deriving DecidableEq, Repr

namespace MemberShape

def isMethod : MemberShape → Bool
  | .method _ => true
  | .property _ => false

def accessor (statement : Text) : List Text := ["", "\x7b", statement, "\x7d"]

def lines : MemberShape → List Text
  | .method _ => ["()", "\x7b", "(=());", "\x7d"]
  | .property writable =>
    let opening : List Text := ["", "\x7b"]
    let closing : List Text := ["\x7d"]
    opening ++ accessor "(=);" ++ (if writable then accessor "(==);" else []) ++ closing

end MemberShape

namespace ContractMember

def shape : ContractMember → MemberShape
  | .method _ _ returns => .method returns.isSome
  | .property _ _ writable => .property writable

def MarkFree : ContractMember → Prop
  | .method name parameters returns =>
    marks name = [] ∧
      (∀ parameter ∈ parameters, marks parameter.name = [] ∧ marks parameter.type.csharp = []) ∧
      ∀ type ∈ returns, marks type.csharp = []
  | .property name type _ => marks name = [] ∧ marks type.csharp = []

end ContractMember

/-- The marks of the lines behind the header: the opening of the namespace and of the class, the
constructor, properties, the factory, methods. Each part begins with a line that has no marks. -/
def skeleton (shapes : List MemberShape) : List Text :=
  let opening : List Text := ["", "", "\x7b", "", "", "", "\x7b"]
  let constructor : List Text := ["", "()", "()", "\x7b", "\x7d"]
  let factory : List Text := ["", "()", "\x7b", "();", "\x7d"]
  let closing : List Text := ["\x7d", "\x7d"]
  let wrappers (shapes : List MemberShape) := shapes.flatMap fun shape => [] :: shape.lines
  opening ++ constructor ++ wrappers (shapes.filter (!·.isMethod)) ++ factory ++
    wrappers (shapes.filter MemberShape.isMethod) ++ closing

namespace ProxyTemplate

section

variable {options : ProxyOptions} {className contract : Text}

theorem marks_parameterList (h : options.Sound) : marks (parameterList options) = [] := by
  simp only [parameterList, marks_append, CSharp.marks_of_isDottedName h.facadeType,
    CSharp.marks_of_isDottedName h.tokenType, CSharp.marks_of_isDottedName h.platformType]
  rfl

theorem marks_of_isMemberName {name : Text} (h : ProxyOptions.isMemberName name = true) :
    marks name = [] := by
  simp only [ProxyOptions.isMemberName, Bool.and_eq_true] at h
  exact CSharp.marks_of_isIdentifier h.1

theorem marks_visibility {visibility : Text} (h : visibility ∈ ProxyOptions.visibilities) :
    marks visibility = [] := by
  revert visibility
  decide

theorem marks_constructorLines (h : options.Sound) (hclass : marks className = []) :
    (constructorLines options className).map marks = ["()", "()", "\x7b", "\x7d"] := by
  simp only [constructorLines, List.map_cons, List.map_nil, marks_append, marks_parameterList h,
    hclass]
  rfl

theorem marks_factoryLines (h : options.Sound) (hclass : marks className = [])
    (hcontract : marks contract = []) :
    (factoryLines options className contract).map marks = ["()", "\x7b", "();", "\x7d"] := by
  simp only [factoryLines, List.map_cons, List.map_nil, marks_append, marks_parameterList h,
    hclass, hcontract, marks_of_isMemberName h.factoryMethod]
  rfl

theorem marks_declarationLine (h : options.Sound) (hclass : marks className = [])
    (hcontract : marks contract = []) :
    marks (declarationLine options className contract) = [] := by
  simp only [declarationLine, marks_append, marks_visibility h.visibility, hclass, hcontract,
    ProxyOptions.marks_baseTypeOf h.baseType hcontract]
  decide

theorem marks_forwarding {invoke : Text} (hinvoke : ProxyOptions.isMemberName invoke = true)
    (expression : Text) :
    marks (forwarding invoke expression) = ['(', '='] ++ marks expression ++ [')', ';'] := by
  have hbase : marks ("base." : Text) = [] := rfl
  have hopen : marks ("(" : Text) = ['('] := rfl
  have hclosure : marks closureName = [] := rfl
  have harrow : marks (" => " : Text) = ['='] := rfl
  have hdot : marks ("." : Text) = [] := rfl
  have hclose : marks (");" : Text) = [')', ';'] := rfl
  unfold forwarding
  simp only [marks_append, marks_of_isMemberName hinvoke, hbase, hopen, hclosure, harrow, hdot,
    hclose, List.nil_append, List.append_nil, List.cons_append]

theorem marks_accessorLines (accessor statement : Text) (h : marks accessor = []) :
    (accessorLines accessor statement).map marks = MemberShape.accessor (marks statement) := by
  simp only [accessorLines, List.map_cons, List.map_nil, marks_append, h]
  rfl

theorem marks_propertyLines (h : options.Sound) {name : Text} (hname : marks name = [])
    {type : TypeRef} (htype : marks type.csharp = []) (writable : Bool) :
    (propertyLines options name type writable).map marks =
      MemberShape.lines (.property writable) := by
  have hescaped := marks_escaped hname
  have hread : marks ("return " ++ forwarding options.invokeFunc (CSharp.escaped name)) =
      "(=);" := by
    rw [marks_append, marks_forwarding h.invokeFunc, hescaped]
    rfl
  have hwrite : marks (forwarding options.invokeAction (CSharp.escaped name ++ " = value")) =
      "(==);" := by
    rw [marks_forwarding h.invokeAction, marks_append, hescaped]
    rfl
  have hdeclared : marks (indent 2 ++ "public " ++ type.csharp ++ " " ++ CSharp.escaped name) =
      [] := by
    simp only [marks_append, htype, hescaped]
    rfl
  have hget := marks_accessorLines "get"
    ("return " ++ forwarding options.invokeFunc (CSharp.escaped name)) rfl
  have hset := marks_accessorLines "set"
    (forwarding options.invokeAction (CSharp.escaped name ++ " = value")) rfl
  rw [hread] at hget
  rw [hwrite] at hset
  cases writable with
  | false =>
    simp only [propertyLines, List.map_append, List.map_cons, hdeclared, hget, Bool.false_eq_true,
      if_false]
    decide
  | true =>
    simp only [propertyLines, List.map_append, List.map_cons, hdeclared, hget, hset, if_true]
    decide

theorem marks_methodLines (h : options.Sound) {name : Text} (hname : marks name = [])
    {parameters : List Parameter}
    (hparameters : ∀ parameter ∈ parameters,
      marks parameter.name = [] ∧ marks parameter.type.csharp = [])
    {returns : Option TypeRef} (hreturns : ∀ type ∈ returns, marks type.csharp = []) :
    (methodLines options name parameters returns).map marks =
      MemberShape.lines (.method returns.isSome) := by
  have hescaped := marks_escaped hname
  have hdeclared : marks (List.intercalate ", " (parameters.map fun parameter =>
      parameter.type.csharp ++ " " ++ CSharp.escaped parameter.name)) = [] := by
    refine marks_intercalate rfl ?_
    intro argument hm
    obtain ⟨parameter, hp, rfl⟩ := List.mem_map.mp hm
    obtain ⟨hown, htype⟩ := hparameters parameter hp
    simp only [marks_append, htype, marks_escaped hown]
    decide
  have hcall : marks (CSharp.escaped name ++ "(" ++ List.intercalate ", " (parameters.map
      fun parameter => CSharp.escaped parameter.name) ++ ")") = "()" := by
    simp only [marks_append, hescaped]
    rw [marks_intercalate rfl]
    · decide
    · intro argument hm
      obtain ⟨parameter, hp, rfl⟩ := List.mem_map.mp hm
      exact marks_escaped (hparameters parameter hp).1
  cases returns with
  | none =>
    unfold methodLines
    simp only [List.map_cons, List.map_nil, marks_append _ (forwarding _ _),
      marks_forwarding h.invokeAction, hcall]
    simp only [marks_append, hescaped, hdeclared]
    decide
  | some type =>
    have htype := hreturns type rfl
    unfold methodLines
    simp only [List.map_cons, List.map_nil, marks_append _ (_ ++ forwarding _ _),
      marks_append _ (forwarding _ _), marks_forwarding h.invokeFunc, hcall]
    simp only [marks_append, hescaped, hdeclared, htype, Option.isSome_some]
    decide

theorem marks_of_fragment (h : options.Sound) {member : ContractMember} {piece : Fragment}
    (hpiece : fragment options contract member = .ok piece) (hmember : member.MarkFree) :
    piece.isMethod = member.shape.isMethod ∧ piece.lines.map marks = member.shape.lines := by
  cases member with
  | property name type writable =>
    cases hpiece
    exact ⟨rfl, marks_propertyLines h hmember.1 hmember.2 writable⟩
  | method name parameters returns =>
    simp only [fragment] at hpiece
    split_ifs at hpiece
    cases hpiece
    exact ⟨rfl, marks_methodLines h hmember.1 hmember.2.1 hmember.2.2⟩

end

end ProxyTemplate

theorem marks_wrappers {pieces : List Fragment} {shapes : List MemberShape}
    (h : List.Forall₂ (fun piece shape =>
      piece.isMethod = shape.isMethod ∧ piece.lines.map marks = shape.lines) pieces shapes)
    (select : Bool → Bool) :
    (((pieces.filter fun piece => select piece.isMethod).map Fragment.lines).flatMap
        (indent 2 :: ·)).map marks =
      (shapes.filter fun shape => select shape.isMethod).flatMap
        fun shape => [] :: shape.lines := by
  have hindent : marks (indent 2) = [] := by decide
  induction h with
  | nil => rfl
  | cons hfirst _ ih =>
    obtain ⟨hkind, hlines⟩ := hfirst
    rw [List.filter_cons, List.filter_cons, hkind]
    split_ifs
    · rw [List.map_cons, List.flatMap_cons, List.flatMap_cons, List.map_append, ih, List.map_cons,
        hindent, hlines]
    · exact ih

namespace ProxyUnit

def headerHeight : Nat := 9

def body (unit : ProxyUnit) : List Text :=
  unit.lines.drop headerHeight

end ProxyUnit

theorem ProxyTemplate.marks_body {template : ProxyTemplate} {scope className : Text}
    {contract : Contract} {members : List Fragment} (hoptions : template.options.Sound)
    (hscope : CSharp.isDottedName scope = true) (hclass : marks className = [])
    (hcontract : marks contract.fullName = [])
    (hmembers : List.Forall₂ (fun piece shape =>
      piece.isMethod = shape.isMethod ∧ piece.lines.map marks = shape.lines) members
      (contract.members.map ContractMember.shape)) :
    (template.assembled scope contract className members).body.map marks =
      skeleton (contract.members.map ContractMember.shape) := by
  have hheader : (headerLines template.options.toolVersion).length = ProxyUnit.headerHeight := rfl
  have hscopeLine : marks ("namespace " ++ scope) = [] := by
    rw [marks_append, CSharp.marks_of_isDottedName hscope]
    decide
  have hopening : List.map marks
      ["", "namespace " ++ scope, "\x7b", indent 1, indent 1,
        declarationLine template.options className contract.fullName, indent 1 ++ "\x7b"] =
      (["", "", "\x7b", "", "", "", "\x7b"] : List Text) := by
    simp only [List.map_cons, List.map_nil, hscopeLine,
      marks_declarationLine hoptions hclass hcontract]
    decide
  have hclosing : List.map marks [indent 1 ++ "\x7d", "\x7d"] = (["\x7d", "\x7d"] : List Text) :=
    by decide
  have hindent : marks (indent 2) = [] := by decide
  have hproperties := marks_wrappers hmembers (!·)
  have hmethods := marks_wrappers hmembers id
  simp only [id] at hmethods
  unfold ProxyUnit.body ProxyUnit.lines assembled ProxyUnit.fragments
  simp only [List.append_assoc]
  rw [← hheader, List.drop_left]
  simp only [List.flatMap_append, List.flatMap_cons, List.flatMap_nil, List.append_nil,
    List.map_append, List.map_cons, hindent, hopening, hclosing, hproperties, hmethods,
    marks_constructorLines hoptions hclass, marks_factoryLines hoptions hclass hcontract]
  simp only [skeleton, List.append_assoc]
  rfl

end ContractProxy
