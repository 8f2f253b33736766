import XmlBinding.Catalog.Soap11
import XmlBinding.Proofs.InForce
import XmlBinding.Proofs.Loading
import XmlBinding.Proofs.Spelled

/-!
The code of a fault, wherever the fault is placed. The element that holds the code declares the
prefix in its text and takes the default away, so the surroundings have no say in what the text
means. But the text is trimmed before it is looked at, and what remains need not be a name that is
bound. Main statement: if a fault can be written, its code means what it should; and it can be
written exactly if the trimmed text has a meaning, which is so for every text that is trimmed
already.
-/

namespace XmlBinding

/-! ### Objects that have nothing but a name and declarations -/

/-- An object of a type under its own name, with some declarations. -/
def TypeDescriptor.declaring (d : TypeDescriptor) (ds : List Declaration) : ObjectHead :=
  { ObjectHead.ofDescriptor d d.name with declarations := ds }

/-- A type without attributes, the name of which can be bound. -/
structure TypeDescriptor.Plain (d : TypeDescriptor) : Prop where
  attributes : d.attributes = []
  localName : isNCName d.name.localName = true
  unprefixed : d.name.uri = none → d.name.nsPrefix = none

namespace ObjectHead

variable {d : TypeDescriptor} {ds : List Declaration} {scope : Scope}

/-- Such an object is written as its tag is opened, unless its text is a name without a meaning. -/
theorem writeTag_declaring (hd : d.Plain) {text : Option String} {config : MarshalConfig}
    {f : Frame} :
    (d.declaring ds).writeTag text config scope = .ok f ↔
      (d.declaring ds).openTag scope = .ok f ∧
        (d.content = .simple .qName → ∀ value, text = some value →
          ValueKind.qName.Accepts f.scope value) := by
  have hentries : (d.declaring ds).entries none config.declareInstance = [] := by
    simp [entries, instanceEntries, Frame.optional, modeledEntries, unknownEntries, hd.attributes,
      TypeDescriptor.declaring, ofDescriptor, OrderedTable.empty]
  have hmodels : ∀ spec, spec ∉ (d.declaring ds).descriptor.attributes := by
    intro spec hspec
    rw [show (d.declaring ds).descriptor.attributes = [] from hd.attributes] at hspec
    exact List.not_mem_nil hspec
  rw [writeTag_eq_ok, checkNames_eq_ok]
  constructor
  · rintro ⟨-, -, hmeant, f₀, typeText, f₁, hopen, htype, hwrite⟩
    cases htype
    rw [hentries] at hwrite
    cases hwrite
    exact ⟨hopen, hmeant.content⟩
  · rintro ⟨hopen, hcontent⟩
    refine ⟨hd.localName, fun spec hspec => absurd hspec (hmodels spec), ?_, f, none, f, hopen, rfl,
      ?_⟩
    · exact ⟨fun spec hspec => absurd hspec (hmodels spec), hcontent⟩
    · rw [hentries]
      rfl

/-- What an object demands can be declared on one tag. -/
structure Declarable (head : ObjectHead) : Prop where
  legal : ∀ dm ∈ head.demands, dm.Legal
  distinct : (head.demands.map Declaration.nsPrefix).Nodup

/-- The frame of an object within a scope. The scope inside is known from the declarations on the
tag, and has the look-ups of what the object demands; nothing else can be written. -/
structure Opens (d : TypeDescriptor) (ds : List Declaration) (scope : Scope) (f : Frame) :
    Prop where
  name_eq : f.tag.name = d.name
  scope_eq : f.scope = scope.declareAll f.tag.declarations
  agree : f.scope.Agree (scope.declareAll (d.declaring ds).demands)
  writeTag_eq_ok : ∀ {text config f'}, (d.declaring ds).writeTag text config scope = .ok f' ↔
    (d.content = .simple .qName → ∀ value, text = some value →
      ValueKind.qName.Accepts f.scope value) ∧ f = f'

theorem exists_opens (hd : d.Plain) (h : (d.declaring ds).Declarable) (scope : Scope) :
    ∃ f, Opens d ds scope f := by
  obtain ⟨f, hall, hagree, hname⟩ := Frame.exists_bindAll (f := .start d.name scope)
    (Scope.Agree.refl scope) h.legal h.distinct (List.forall_mem_nil _)
  have hopen : (d.declaring ds).openTag scope = .ok f := openTag_eq_ok.2 ⟨hd.unprefixed, hall⟩
  have hprefixes : ∀ dm ∈ (d.declaring ds).demands, dm.nsPrefix ≠ some "" := fun dm hdm hempty =>
    ne_empty_of_isNCName ((h.legal dm hdm).prefixIn "" hempty).1 rfl
  have htracked := (Frame.tracked_start d.name scope).bindAll hprefixes hall
  refine ⟨f, hname, htracked.scope_eq, hagree, fun {text config f'} => ?_⟩
  rw [writeTag_declaring hd, hopen]
  constructor
  · rintro ⟨hf, hcontent⟩
    cases hf
    exact ⟨hcontent, rfl⟩
  · rintro ⟨hcontent, rfl⟩
    exact ⟨rfl, hcontent⟩

/-- An object with one text is written as an element with this text. -/
theorem Opens.marshalAt_eq_ok {f : Frame} {depth : Nat} {text : String} {e : Element}
    (hf : Opens d ds scope f) (hdepth : depth ≤ Limits.standard.maxDepth) :
    TypedObject.marshalAt .standard scope depth ⟨d.declaring ds, [.text text]⟩ = .ok e ↔
      (d.content = .simple .qName → ValueKind.qName.Accepts f.scope text) ∧
        ⟨f.tag, [.text text]⟩ = e := by
  have htext : TypedObject.text? ⟨d.declaring ds, [.text text]⟩ = some text := by
    simp [TypedObject.text?, Child.text?, String.join]
  rw [TypedObject.marshalAt_eq_ok, htext]
  constructor
  · rintro ⟨-, f', nodes, htag, hchildren, rfl⟩
    obtain ⟨hcontent, rfl⟩ := hf.writeTag_eq_ok.1 htag
    cases hchildren
    exact ⟨fun hkind => hcontent hkind text rfl, rfl⟩
  · rintro ⟨hcontent, rfl⟩
    have hsize : 0 ≤ Limits.standard.maxAttributes ∧ 1 ≤ Limits.standard.maxChildren := by decide
    refine ⟨⟨hdepth, hsize⟩, f, [.text text], hf.writeTag_eq_ok.2 ⟨?_, rfl⟩, rfl, rfl⟩
    rintro hkind _ ⟨⟩
    exact hcontent hkind

end ObjectHead

/-- A registry in which all types of a catalog are found. -/
def Catalog.HeldBy (c : Catalog) (r : Registry) : Prop :=
  ∀ d ∈ c.types, r.lookup d.name = some d

/-- A catalog that was registered without a fault is held. -/
theorem Catalog.heldBy_of_registerTypes {c : Catalog} {r : Registry}
    (hchecked : ∀ d ∈ c.types, d.check = .ok ()) (h : (r.registerTypes c.types).2 = .ok ()) :
    c.HeldBy (r.registerTypes c.types).1 := by
  rcases Registry.registerTypes_cases (r := r) hchecked with ⟨-, hextends, -⟩ | hfault
  · intro d hd
    refine OrderedTable.get?_of_mem (e := (d.name, d)) ?_
    rw [hextends.entries, List.mem_append, Registry.entriesOf, List.mem_flatMap]
    exact .inr ⟨d, hd, List.mem_cons_self⟩
  · obtain ⟨_, _, _, key, -, -, -, -, -, herror⟩ := hfault
    rw [h] at herror
    cases herror

namespace Soap11

variable {r : Registry} {code : QName} {message text : String} {scope : Scope}

/-! ### The fault that is built -/

def wholeType : TypeDescriptor :=
  .ofName fault

def codeType : TypeDescriptor :=
  (TypeDescriptor.ofName faultCode).withContent (.simple .qName)

def stringType : TypeDescriptor :=
  (TypeDescriptor.ofName faultString).withContent (.simple .string)

theorem plain_wholeType : wholeType.Plain :=
  ⟨rfl, by decide, nofun⟩

theorem plain_codeType : codeType.Plain :=
  ⟨rfl, by decide, fun _ => rfl⟩

theorem plain_stringType : stringType.Plain :=
  ⟨rfl, by decide, fun _ => rfl⟩

/-- A fault: its code with the declaration that the text needs, and its message. -/
def faultObject (code : QName) (message : String) : TypedObject :=
  ⟨wholeType.declaring [],
    [.object ⟨codeType.declaring (codeContent code).2.toList, [.text (codeContent code).1]⟩,
      .object ⟨stringType.declaring [], [.text message]⟩]⟩

theorem buildFault?_eq (hr : catalog.HeldBy r) (code : QName) (message : String) :
    buildFault? r code message = some (faultObject code message) := by
  have hbuild (d : TypeDescriptor) (hd : d ∈ catalog.types) : r.build? d.name = some d.build := by
    rw [Registry.build?, hr d hd]
    rfl
  have hwhole : r.build? fault = some wholeType.build := hbuild wholeType (by decide)
  have hcode : r.build? faultCode = some codeType.build := hbuild codeType (by decide)
  have hstring : r.build? faultString = some stringType.build := hbuild stringType (by decide)
  rw [buildFault?, hwhole, hcode, hstring]
  cases hcontent : (codeContent code).2 <;>
    simp [faultObject, hcontent, TypeDescriptor.build, TypeDescriptor.declaring,
      TypedObject.addChild, TypedObject.setText, TypedObject.clearText, TypedObject.declare,
      ObjectHead.declare, ObjectHead.ofDescriptor, addDeclaration]

/-! ### What the text means -/

/-- The scope on the element of the code, for its look-ups: the prefix of the fault, the declaration
that the text needs, and no default. -/
def codeScope (code : QName) (scope : Scope) : Scope :=
  (scope.declareAll (wholeType.declaring []).demands).declareAll
    (codeType.declaring (codeContent code).2.toList).demands

/-- The prefix of a code, if it has one, is not `xml` for another namespace. -/
def LeavesXml (code : QName) : Prop :=
  ∀ uri, code.uri = some uri → code.nsPrefix = some "xml" → uri = xmlUri

theorem isNCName_usualPrefix : isNCName usualPrefix = true := by
  decide

theorem isQNameText_join {p l : String} (hp : isNCName p = true) (hl : isNCName l = true) :
    isQNameText s!"{p}:{l}" = true := by
  rw [isQNameText, splitColon_join (not_mem_colon_of_isNCName hp)]
  exact Bool.and_eq_true_iff.2 ⟨hp, hl⟩

theorem isQNameText_codeContent (hcode : code.Proper) :
    isQNameText (codeContent code).1 = true := by
  rw [codeContent]
  cases huri : code.uri with
  | none =>
      rw [isQNameText, splitColon_of_not_mem (not_mem_colon_of_isNCName hcode.localName)]
      exact hcode.localName
  | some uri =>
      cases hp : code.nsPrefix with
      | none => exact isQNameText_join isNCName_usualPrefix hcode.localName
      | some p =>
          rw [QName.prefixedName, hp]
          exact isQNameText_join (hcode.nsPrefix hp) hcode.localName

/-- The declaration that the text needs is that of a prefix for the namespace of the code. -/
theorem codeContent_snd (hcode : code.Proper) {dm : Declaration}
    (h : (codeContent code).2 = some dm) :
    ∃ p uri, dm = ⟨some p, uri⟩ ∧ isNCName p = true ∧ code.uri = some uri ∧
      (codeContent code).1 = s!"{p}:{code.localName}" ∧
      (p = "xml" → code.nsPrefix = some "xml") := by
  rw [codeContent] at h ⊢
  cases huri : code.uri with
  | none => simp [huri] at h
  | some uri =>
      cases hp : code.nsPrefix with
      | none =>
          rw [huri, hp] at h
          cases h
          refine ⟨usualPrefix, uri, rfl, isNCName_usualPrefix, rfl, rfl, ?_⟩
          exact fun h => absurd h (by decide)
      | some p =>
          have hname : isNCName p = true := hcode.nsPrefix hp
          rw [huri, hp] at h
          cases h
          refine ⟨p, uri, ?_, hname, rfl, ?_, congrArg some⟩
          · rw [Declaration.of, present_of_ne (ne_empty_of_isNCName hname)]
          · show code.prefixedName = _
            rw [QName.prefixedName, hp]

theorem legal_of_codeContent (hcode : code.Proper) (hxml : LeavesXml code) {dm : Declaration}
    (h : (codeContent code).2 = some dm) : dm.Legal := by
  obtain ⟨p, uri, rfl, hp, huri, -, hown⟩ := codeContent_snd hcode h
  refine ⟨fun q hq => ?_, fun _ => hcode.normal.uri_ne huri⟩
  cases hq
  exact ⟨hp, fun h => hxml uri huri (hown h)⟩

/-- Whatever the surroundings bind, the text means the code. -/
theorem denotes_codeContent (hcode : code.Proper) (hxml : LeavesXml code) (scope : Scope) :
    (codeScope code scope).denotes (codeContent code).1 = some code.expanded := by
  have hscope : codeScope code scope =
      ((scope.declareAll (wholeType.declaring []).demands).declareAll
        (codeContent code).2.toList).declare ⟨none, ""⟩ :=
    Scope.declareAll_append _ _ _
  rw [hscope]
  cases hdm : (codeContent code).2 with
  | none =>
      -- No default is left, so the bare name is in no namespace.
      have huri : code.uri = none := by
        cases huri : code.uri with
        | none => rfl
        | some uri => cases hp : code.nsPrefix <;> simp [codeContent, huri, hp] at hdm
      have htext : (codeContent code).1 = code.localName := by
        simp [codeContent, huri]
      rw [htext, Scope.denotes_of_resolve (Scope.resolve_unprefixed hcode.localName)]
      show some (⟨none, code.localName⟩ : ExpandedName) = some code.expanded
      rw [← huri]
  | some dm =>
      obtain ⟨p, uri, rfl, hp, huri, htext, -⟩ := codeContent_snd hcode hdm
      have hlegal := legal_of_codeContent hcode hxml hdm
      have hpresent : present (some uri) = some uri := present_of_ne (hcode.normal.uri_ne huri)
      have hbound : ((((scope.declareAll (wholeType.declaring []).demands).declareAll
          [⟨some p, uri⟩]).declare ⟨none, ""⟩).prefixUri p) = some uri := by
        rw [← Scope.lookup_some, Scope.lookup_declare, if_neg nofun, Scope.declareAll_cons,
          Scope.declareAll_nil, Scope.lookup_declare, if_pos rfl,
          Declaration.meaning_eq hlegal.prefixIn hlegal.uri_ne, hpresent]
      rw [htext, Option.toList_some,
        Scope.denotes_of_resolve (Scope.resolve_prefixed hp hcode.localName hbound)]
      show some (⟨present (some uri), code.localName⟩ : ExpandedName) = some code.expanded
      rw [hpresent, ← huri]

/-- A text that is trimmed already can be read. -/
theorem accepts_codeContent (hcode : code.Proper) (hxml : LeavesXml code) (scope : Scope)
    (htrim : Text.trim (codeContent code).1 = (codeContent code).1) :
    ValueKind.qName.Accepts (codeScope code scope) (codeContent code).1 := by
  have hdenotes := denotes_codeContent hcode hxml scope
  rw [Scope.denotes, Option.map_eq_some_iff] at hdenotes
  obtain ⟨name, hname, -⟩ := hdenotes
  rw [toOption_eq_some] at hname
  refine exists_readQName_iff.1 ⟨name, ?_⟩
  rw [readQName, htrim, if_pos (isQNameText_codeContent hcode), hname]
  rfl

/-! ### The fault that is written -/

theorem legal_noDefault : (⟨none, ""⟩ : Declaration).Legal :=
  ⟨nofun, fun h => absurd rfl h⟩

theorem declarable_wholeType : (wholeType.declaring []).Declarable where
  legal dm hdm := by
    obtain rfl := List.mem_singleton.1 hdm
    refine ⟨fun p hp => ?_, fun _ => by decide⟩
    obtain rfl : usualPrefix = p := Option.some.inj hp
    exact ⟨isNCName_usualPrefix, fun h => absurd h (by decide)⟩
  distinct := List.nodup_singleton _

theorem declarable_stringType : (stringType.declaring []).Declarable where
  legal dm hdm := by
    obtain rfl := List.mem_singleton.1 hdm
    exact legal_noDefault
  distinct := List.nodup_singleton _

theorem declarable_codeType (hcode : code.Proper) (hxml : LeavesXml code) :
    (codeType.declaring (codeContent code).2.toList).Declarable where
  legal dm hdm := by
    rcases List.mem_append.1 hdm with hdm | hdm
    · exact legal_of_codeContent hcode hxml (Option.mem_toList.1 hdm)
    · obtain rfl := List.mem_singleton.1 hdm
      exact legal_noDefault
  distinct := by
    cases hdm : (codeContent code).2 with
    | none => exact List.nodup_singleton _
    | some dm =>
        obtain ⟨p, uri, rfl, -⟩ := codeContent_snd hcode hdm
        show [some p, none].Nodup
        simp

/-- A fault is written exactly if the text of its code can be read, as three elements. -/
theorem marshal_faultObject {f fcode fstring : Frame} {e : Element}
    (hf : ObjectHead.Opens wholeType [] scope f)
    (hfcode : ObjectHead.Opens codeType (codeContent code).2.toList f.scope fcode)
    (hfstring : ObjectHead.Opens stringType [] f.scope fstring) :
    (faultObject code message).marshal .standard scope = .ok e ↔
      ValueKind.qName.Accepts fcode.scope (codeContent code).1 ∧
        ⟨f.tag, [.element ⟨fcode.tag, [.text (codeContent code).1]⟩,
          .element ⟨fstring.tag, [.text message]⟩]⟩ = e := by
  have hdepth : 2 ≤ Limits.standard.maxDepth := by decide
  rw [TypedObject.marshal, faultObject, TypedObject.marshalAt_eq_ok]
  constructor
  · rintro ⟨-, f', nodes, htag, hchildren, rfl⟩
    obtain ⟨-, rfl⟩ := hf.writeTag_eq_ok.1 htag
    obtain _ | ⟨hfirst, _ | ⟨hsecond, _ | _⟩⟩ := Child.marshalAll_eq_ok.1 hchildren
    obtain ⟨codeElement, rfl, hcode⟩ := Node.matches_object_iff.1 hfirst
    obtain ⟨stringElement, rfl, hstring⟩ := Node.matches_object_iff.1 hsecond
    obtain ⟨haccepts, rfl⟩ := (hfcode.marshalAt_eq_ok hdepth).1 hcode
    obtain ⟨-, rfl⟩ := (hfstring.marshalAt_eq_ok hdepth).1 hstring
    exact ⟨haccepts rfl, rfl⟩
  · rintro ⟨haccepts, rfl⟩
    have hsize : 1 ≤ Limits.standard.maxDepth ∧ 0 ≤ Limits.standard.maxAttributes ∧
        2 ≤ Limits.standard.maxChildren := by
      decide
    refine ⟨hsize, f, _, hf.writeTag_eq_ok.2 ⟨nofun, rfl⟩,
      Child.marshalAll_eq_ok.2 (.cons (.element ?_) (.cons (.element ?_) .nil)), rfl⟩
    · exact (hfcode.marshalAt_eq_ok hdepth).2 ⟨fun _ => haccepts, rfl⟩
    · exact (hfstring.marshalAt_eq_ok hdepth).2 ⟨nofun, rfl⟩

/-- Where the types of the catalog are registered, a fault is built for every code. If it can be
written, wherever that is, then the text on the element for its code denotes the code in the
bindings in force on that element. It can be written exactly if this text, once it is trimmed, is a
name with a meaning there; so it can if the text is trimmed already. -/
theorem buildFault?_denotes (hr : catalog.HeldBy r) (hcode : code.Proper) (hxml : LeavesXml code)
    (message : String) (scope : Scope) :
    ∃ x, buildFault? r code message = some x ∧
      (∀ e, x.marshal .standard scope = .ok e → ∃ codeElement stringElement,
        e.name = fault ∧ e.children = [.element codeElement, .element stringElement] ∧
          codeElement.name = faultCode ∧
            codeElement.children = [.text (codeContent code).1] ∧
          stringElement.name = faultString ∧ stringElement.children = [.text message] ∧
          ((scope.declareAll e.declarations).declareAll codeElement.declarations).denotes
            (codeContent code).1 = some code.expanded) ∧
      ((∃ e, x.marshal .standard scope = .ok e) ↔
        ValueKind.qName.Accepts (codeScope code scope) (codeContent code).1) ∧
      (Text.trim (codeContent code).1 = (codeContent code).1 →
        ∃ e, x.marshal .standard scope = .ok e) := by
  obtain ⟨f, hf⟩ := ObjectHead.exists_opens plain_wholeType declarable_wholeType scope
  obtain ⟨fcode, hfcode⟩ :=
    ObjectHead.exists_opens plain_codeType (declarable_codeType hcode hxml) f.scope
  obtain ⟨fstring, hfstring⟩ :=
    ObjectHead.exists_opens plain_stringType declarable_stringType f.scope
  have hagree : fcode.scope.Agree (codeScope code scope) := fun k =>
    (hfcode.agree k).trans (Scope.Agree.declareAll hf.agree _ k)
  have hwritten : (∃ e, (faultObject code message).marshal .standard scope = .ok e) ↔
      ValueKind.qName.Accepts (codeScope code scope) (codeContent code).1 := by
    simp only [marshal_faultObject hf hfcode hfstring, exists_and_left, exists_eq', and_true]
    exact ⟨fun h => h.mono hagree.extends, fun h => h.mono hagree.symm.extends⟩
  refine ⟨_, buildFault?_eq hr code message, fun e he => ?_, hwritten, fun htrim => ?_⟩
  · obtain ⟨-, rfl⟩ := (marshal_faultObject hf hfcode hfstring).1 he
    refine ⟨_, _, hf.name_eq, rfl, hfcode.name_eq, rfl, hfstring.name_eq, rfl, ?_⟩
    rw [← hf.scope_eq, ← hfcode.scope_eq]
    exact hagree.symm.extends.denotes (denotes_codeContent hcode hxml scope)
  · exact hwritten.2 (accepts_codeContent hcode hxml scope htrim)

/-! ### Two codes -/

/-- A registry with the types of the catalog only. -/
def soapRegistry : Registry :=
  (Registry.empty.registerTypes catalog.types).1

theorem heldBy_soapRegistry : catalog.HeldBy soapRegistry := by
  refine Catalog.heldBy_of_registerTypes ?_ rfl
  simp only [catalog, List.forall_mem_cons]
  exact ⟨rfl, rfl, rfl, rfl, rfl, rfl, rfl, rfl, List.forall_mem_nil _⟩

/-- Surroundings with a default, and with another use of the usual prefix. -/
def masked : Scope :=
  .ofDeclarations [⟨none, "urn:default"⟩, ⟨some usualPrefix, "urn:other"⟩]

/-- A code without a namespace keeps its meaning under a default. -/
theorem ownCode_written :
    ∃ x e codeElement stringElement,
      buildFault? soapRegistry (.unqualified "Own") "m" = some x ∧
      x.marshal .standard masked = .ok e ∧
      e.children = [.element codeElement, .element stringElement] ∧
      ((masked.declareAll e.declarations).declareAll codeElement.declarations).denotes "Own" =
        some ⟨none, "Own"⟩ := by
  have hproper : (QName.unqualified "Own").Proper := by decide
  obtain ⟨x, hx, hmeant, -, htrimmed⟩ :=
    buildFault?_denotes heldBy_soapRegistry hproper nofun "m" masked
  obtain ⟨e, he⟩ := htrimmed (by decide)
  obtain ⟨codeElement, stringElement, -, hchildren, -, -, -, -, hdenotes⟩ := hmeant e he
  exact ⟨x, e, codeElement, stringElement, hx, he, hchildren, hdenotes⟩

/-- A code the local part of which is a letter and a blank at once. -/
def blankCode : QName :=
  .prefixed "urn:n" "\u1680" "t"

/-- The text of the code is trimmed down to its prefix, so the fault cannot be written. -/
theorem blankCode_refused :
    catalog.HeldBy soapRegistry ∧ blankCode.Proper ∧ LeavesXml blankCode ∧
      ∃ x, buildFault? soapRegistry blankCode "m" = some x ∧
        ∀ e, x.marshal .standard .empty ≠ .ok e := by
  have hxml : LeavesXml blankCode := fun _ _ hp => absurd hp (by decide)
  refine ⟨heldBy_soapRegistry, by decide, hxml, _, buildFault?_eq heldBy_soapRegistry _ _,
    fun e he => ?_⟩
  have hnone : ((faultObject blankCode "m").marshal .standard .empty).toOption.isNone = true := by
    decide
  rw [he] at hnone
  cases hnone

end Soap11

end XmlBinding
