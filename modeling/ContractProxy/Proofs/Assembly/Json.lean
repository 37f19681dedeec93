import ContractProxy.Assembly.Json
import ContractProxy.Proofs.FirstFault
import ContractProxy.Proofs.TypeRef.Json

/-!
Assemblies in JSON. Main statement: the compact text of an assembly is read back as the assembly,
unless it opens more containers at once than a reader lets be open.
-/

set_option autoImplicit false

namespace ContractProxy

namespace Json

theorem asList_ofList {α : Type} {item : Reader α} {write : α → Json} {values : List α}
    (h : ∀ value ∈ values, item (write value) = .ok value) :
    asList item (ofList (values.map write)) = .ok values := by
  have hmap : (values.map write).mapM item = .ok values := by
    rw [mapM_eq_ok_iff, List.forall₂_map_left_iff, List.forall₂_same]
    exact h
  rw [ofList, asList, hmap]
  rfl

end Json

open Json (nestingLimit)

theorem TypeKind.reader_toJson (kind : TypeKind) : TypeKind.reader kind.toJson = .ok kind := by
  cases kind <;> rfl

theorem bufferedType_toJson {type : TypeRef} (h : type.toJson.nesting ≤ nestingLimit) :
    bufferedType type.toJson = .ok type :=
  TypeRef.reader_toJson h

namespace Parameter

theorem printable_toJson (parameter : Parameter) : parameter.toJson.Printable := by
  refine Json.printable_ofMembers ?_
  simp [Json.printable_ofText, TypeRef.printable_toJson]

theorem reader_toJson {parameter : Parameter} (h : parameter.toJson.nesting ≤ nestingLimit) :
    reader parameter.toJson = .ok parameter := by
  have htype : parameter.type.toJson.nesting < parameter.toJson.nesting :=
    Json.nesting_lt_ofMembers "type" (by simp)
  have hread := bufferedType_toJson (Nat.le_of_lt (Nat.lt_of_lt_of_le htype h))
  simp [toJson, Json.ofMembers, Json.ofText, reader, Json.readMembers, member, Json.once,
    Json.asText, hread, Except.map, bind, Except.bind, Json.required]

end Parameter

namespace Member

def written (fields : List (Text × Json)) : List (Json × Json) :=
  fields.map fun (key, value) => (Json.ofText key, value)

theorem splitTag_written {depth : Nat} {kind : Kind} {fields : List (Text × Json)}
    (htag : ∀ field ∈ fields, field.1 ≠ tag)
    (hreadable : ∀ field ∈ fields, field.2.readable depth = true) (kept : List (Json × Json)) :
    splitTag depth true (some kind) kept (written fields) =
      .ok (kind, kept.reverse ++ written fields) := by
  induction fields generalizing kept with
  | nil => simp [written, splitTag]
  | cons field fields ih =>
    obtain ⟨key, value⟩ := field
    rw [List.forall_mem_cons] at htag hreadable
    have hkey : (key == tag) = false := beq_false_of_ne htag.1
    have hrest := ih htag.2 hreadable.2 ((Json.ofText key, value) :: kept)
    simp only [written, List.map_cons, Json.ofText] at hrest ⊢
    rw [splitTag, hkey]
    simp [hreadable.1, hrest]

theorem reader_ofMembers {label : Text} {kind : Kind} (hkind : kinds.lookup label = some kind)
    {fields : List (Text × Json)} (htag : ∀ field ∈ fields, field.1 ≠ tag)
    (hprintable : ∀ field ∈ fields, field.2.Printable)
    (hnesting : (Json.ofMembers ((tag, Json.ofText label) :: fields)).nesting + (openAround - 1) ≤
      nestingLimit) :
    reader (Json.ofMembers ((tag, Json.ofText label) :: fields)) =
      Json.readMembers (member kind) true noFields (written fields) >>= ofFields kind := by
  have hreadable : ∀ field ∈ fields, field.2.readable (nestingLimit - openAround) = true := by
    intro field hfield
    have hfieldNesting := Json.nesting_lt_ofMembers field.1
      (List.mem_cons_of_mem (tag, Json.ofText label) hfield)
    refine Json.readable_of_nesting _ (hprintable field hfield) ?_
    rw [openAround] at hnesting ⊢
    omega
  have hfields : splitTag (nestingLimit - openAround) true (some kind) [] (written fields) =
      .ok (kind, written fields) := splitTag_written htag hreadable []
  have hsplit : splitTag (nestingLimit - openAround) true none []
      ((Json.ofText tag, Json.ofText label) :: written fields) = .ok (kind, written fields) := by
    simp [Json.ofText, splitTag, Json.asVariant, Json.asText, bind, Except.bind, hkind, hfields]
  calc reader (Json.ofMembers ((tag, Json.ofText label) :: fields))
      = splitTag (nestingLimit - openAround) true none []
            ((Json.ofText tag, Json.ofText label) :: written fields) >>= fun split =>
          Json.readMembers (member split.1) true noFields split.2 >>= ofFields split.1 := rfl
    _ = Json.readMembers (member kind) true noFields (written fields) >>= ofFields kind := by
        rw [hsplit]
        rfl

theorem optionalType_toJson {returns : Option TypeRef}
    (h : ∀ type ∈ returns, type.toJson.nesting ≤ nestingLimit) :
    optionalType ((returns.map TypeRef.toJson).getD .null) = .ok returns := by
  cases returns with
  | none => rfl
  | some type =>
    calc optionalType type.toJson
        = (bufferedType type.toJson).map some := by
          cases type
          rfl
      _ = .ok (some type) := by
          rw [bufferedType_toJson (h type rfl)]
          rfl

def kind : Member → Kind
  | .method .. => .method
  | .property .. => .property
  | .event _ => .event
  | .field _ => .field
  | .constructor _ => .constructor
  | .nestedType _ => .nestedType

def tagText : Member → Text
  | .method .. => "method"
  | .property .. => "property"
  | .event _ => "event"
  | .field _ => "field"
  | .constructor _ => "constructor"
  | .nestedType _ => "nested_type"

def fields : Member → List (Text × Json)
  | .method name parameters returns special =>
    [("name", Json.ofText name), ("parameters", Json.ofList (parameters.map Parameter.toJson)),
      ("return_type", (returns.map TypeRef.toJson).getD .null), ("special_name", .bool special)]
  | .property name type readable writable =>
    [("name", Json.ofText name), ("type", type.toJson), ("can_read", .bool readable),
      ("can_write", .bool writable)]
  | member => [("name", Json.ofText member.name)]

theorem toJson_eq (member : Member) :
    member.toJson = Json.ofMembers ((tag, Json.ofText member.tagText) :: member.fields) := by
  cases member <;> rfl

theorem lookup_tagText (member : Member) : kinds.lookup member.tagText = some member.kind := by
  cases member <;> rfl

theorem ne_tag_of_mem_fields (member : Member) : ∀ field ∈ member.fields, field.1 ≠ tag := by
  cases member <;> simp [fields, tag]

theorem printable_fields (member : Member) : ∀ field ∈ member.fields, field.2.Printable := by
  cases member with
  | method name parameters returns special =>
    have hreturns : ((returns.map TypeRef.toJson).getD .null).Printable := by
      cases returns with
      | none => trivial
      | some type => exact type.printable_toJson
    have hparameters : (Json.ofList (parameters.map Parameter.toJson)).Printable :=
      Json.printable_ofList (List.forall_mem_map.mpr fun parameter _ => parameter.printable_toJson)
    simp [fields, Json.printable_ofText, hparameters, hreturns, Json.Printable]
  | property name type readable writable =>
    simp [fields, Json.printable_ofText, type.printable_toJson, Json.Printable]
  | _ => simp [fields, Json.printable_ofText]

theorem printable_toJson (member : Member) : member.toJson.Printable := by
  rw [toJson_eq]
  refine Json.printable_ofMembers ?_
  rw [List.forall_mem_cons]
  exact ⟨Json.printable_ofText _, member.printable_fields⟩

theorem readMembers_fields (own : Member)
    (h : ∀ field ∈ own.fields, field.2.nesting ≤ nestingLimit) :
    Json.readMembers (member own.kind) true noFields (written own.fields) >>= ofFields own.kind =
      .ok own := by
  cases own with
  | method name parameters returns special =>
    have hparameters : Json.asList Parameter.reader
        (Json.ofList (parameters.map Parameter.toJson)) = .ok parameters := by
      refine Json.asList_ofList fun parameter hm => Parameter.reader_toJson ?_
      have hlist := h ("parameters", Json.ofList (parameters.map Parameter.toJson))
        (by simp [fields])
      have hparameter : parameter.toJson.nesting < _ :=
        Json.nesting_lt_ofList (List.mem_map_of_mem hm)
      exact Nat.le_of_lt (Nat.lt_of_lt_of_le hparameter hlist)
    have hreturns : optionalType ((returns.map TypeRef.toJson).getD .null) = .ok returns := by
      refine optionalType_toJson ?_
      rintro type ⟨⟩
      exact h ("return_type", _) (by simp [fields])
    simp [fields, written, kind, Json.ofText, Json.readMembers, member, noFields, Json.once,
      Json.asText, Json.asBool, hparameters, hreturns, Except.map, bind, Except.bind, ofFields,
      Json.required]
  | property name type readable writable =>
    have htype : bufferedType type.toJson = .ok type :=
      bufferedType_toJson (h ("type", _) (by simp [fields]))
    simp [fields, written, kind, Json.ofText, Json.readMembers, member, noFields, Json.once,
      Json.asText, Json.asBool, htype, Except.map, bind, Except.bind, ofFields, Json.required]
  | _ => rfl

theorem reader_toJson {own : Member} (h : own.toJson.nesting + (openAround - 1) ≤ nestingLimit) :
    reader own.toJson = .ok own := by
  rw [toJson_eq] at h ⊢
  rw [reader_ofMembers own.lookup_tagText own.ne_tag_of_mem_fields own.printable_fields h]
  refine own.readMembers_fields fun field hfield => ?_
  have hnesting := Json.nesting_lt_ofMembers field.1
    (List.mem_cons_of_mem (tag, Json.ofText own.tagText) hfield)
  omega

end Member

namespace TypeDeclaration

theorem printable_toJson (type : TypeDeclaration) : type.toJson.Printable := by
  have hmembers : (Json.ofList (type.members.map Member.toJson)).Printable :=
    Json.printable_ofList (List.forall_mem_map.mpr fun member _ => member.printable_toJson)
  refine Json.printable_ofMembers ?_
  simp [Json.printable_ofText, TypeKind.toJson, hmembers, Json.Printable]

theorem reader_toJson {type : TypeDeclaration} (h : type.toJson.nesting + 2 ≤ nestingLimit) :
    reader type.toJson = .ok type := by
  have hmembers : Json.asList Member.reader
      (Json.ofList (type.members.map Member.toJson)) = .ok type.members := by
    refine Json.asList_ofList fun member hm => Member.reader_toJson ?_
    -- The list and the type itself are open around a member, besides the two around the type.
    have hmember : member.toJson.nesting < _ := Json.nesting_lt_ofList (List.mem_map_of_mem hm)
    have hlist : (Json.ofList (type.members.map Member.toJson)).nesting < type.toJson.nesting :=
      Json.nesting_lt_ofMembers "members" (by simp)
    rw [Member.openAround]
    omega
  simp [toJson, Json.ofMembers, Json.ofText, reader, Json.readMembers, member, Json.once,
    Json.asText, Json.asBool, TypeKind.reader_toJson, hmembers, Except.map, bind, Except.bind,
    Json.required]

end TypeDeclaration

namespace Assembly

theorem printable_toJson (assembly : Assembly) : assembly.toJson.Printable := by
  have htypes : (Json.ofList (assembly.types.map TypeDeclaration.toJson)).Printable :=
    Json.printable_ofList (List.forall_mem_map.mpr fun type _ => type.printable_toJson)
  refine Json.printable_ofMembers ?_
  simp [Json.printable_ofText, htypes]

theorem reader_toJson {assembly : Assembly} (h : assembly.toJson.nesting ≤ nestingLimit) :
    reader assembly.toJson = .ok assembly := by
  have htypes : Json.asList TypeDeclaration.reader
      (Json.ofList (assembly.types.map TypeDeclaration.toJson)) = .ok assembly.types := by
    refine Json.asList_ofList fun type hm => TypeDeclaration.reader_toJson ?_
    have htype : type.toJson.nesting < _ := Json.nesting_lt_ofList (List.mem_map_of_mem hm)
    have hlist : (Json.ofList (assembly.types.map TypeDeclaration.toJson)).nesting <
        assembly.toJson.nesting := Json.nesting_lt_ofMembers "types" (by simp)
    omega
  simp [toJson, Json.ofMembers, Json.ofText, reader, Json.readMembers, member, Json.once,
    Json.asText, htypes, Except.map, bind, Except.bind, Json.required]

/-- An assembly is read back from its compact text. -/
theorem ofBytes_render_toJson (assembly : Assembly) (h : assembly.toJson.nesting ≤ nestingLimit) :
    ofBytes (Text.utf8 assembly.toJson.render) = .ok assembly := by
  rw [ofBytes, Json.decode, Json.read_render assembly.printable_toJson]
  simp [reader_toJson h, bind, Except.bind]

def listsOf : Nat → TypeRef
  | 0 => ⟨"System.Byte[]", [], 4294967295⟩
  | depth + 1 => .generic "System.Collections.Generic.List\x601" [listsOf depth]

/-- An assembly with members of every kind, whose types are nested as deeply as a reader allows. -/
def archive : Assembly where
  name := "Archive \"one\"\n\x01"
  types :=
    [{ scope := "Acme", name := "IArchive", kind := .interface, exported := true,
       members :=
         [.method "Größe" [⟨"path\\", .named "System.String"⟩] none false,
          .method "get_Pages" [] (some (listsOf 60)) true,
          .property "Pages" (listsOf 60) true false, .event "Closed", .field "count",
          .constructor ".ctor", .nestedType "Page"] },
     { scope := [], name := "Mode", kind := .enumeration, exported := false, members := [] }]

theorem ofBytes_render_toJson_archive :
    archive.toJson.nesting = 126 ∧
      ofBytes (Text.utf8 archive.toJson.render) = .ok archive := by
  have hnesting : archive.toJson.nesting = 126 := by decide +kernel
  exact ⟨hnesting, ofBytes_render_toJson archive (by rw [hnesting]; decide)⟩

end Assembly

end ContractProxy
