import XmlGraft.Proofs.Outcome
import XmlGraft.Xml.Namespace

/-!
# Plain names — what has no namespace needs no prefix

A name without a colon is a name without a namespace, however it is judged: as the name of a new
element, of an attribute to be set, or as a pattern for children. An element made from such names
alone declares nothing, and a tree that declares nothing settles anywhere as it is
(`settle_plain`).
-/

namespace XmlGraft.Xml

open Text (isNameStart isNameChar inRanges_eq_true_iff)

/-! ## Names without a colon -/

/-- A name character can stand in markup. -/
theorem isTextChar_of_isNameChar {c : Char} (name : isNameChar c = true) : isTextChar c = true := by
  have text : ∀ range ∈ Text.nameStartRanges ++ Text.nameExtraRanges,
      0x20 ≤ range.1 ∧ (range.2 < 0xFFFE ∨ 0xFFFF < range.1) := by decide
  obtain ⟨range, member, low, high⟩ :
      ∃ range ∈ Text.nameStartRanges ++ Text.nameExtraRanges,
        range.1 ≤ c.toNat ∧ c.toNat ≤ range.2 := by
    simp only [isNameChar, isNameStart, Bool.or_eq_true, inRanges_eq_true_iff] at name
    rcases name with ⟨range, member, within⟩ | ⟨range, member, within⟩
    · exact ⟨range, List.mem_append_left _ member, within⟩
    · exact ⟨range, List.mem_append_right _ member, within⟩
  obtain ⟨printable, notLast⟩ := text range member
  simp only [isTextChar, Bool.and_eq_true, Bool.or_eq_true, decide_eq_true_eq, ne_eq]
  exact ⟨⟨Or.inl (Or.inl (Or.inl (Nat.le_trans printable low))), by omega⟩, by omega⟩

/-- A character that begins a name may stand in it. -/
theorem isNameChar_of_isNameStart {c : Char} (start : isNameStart c = true) :
    isNameChar c = true := by
  simp only [isNameChar, start, Bool.true_or]

/-- A name without a colon begins with a character that begins names and has only name characters.
-/
theorem isNCName_cons {text : String} (name : isNCName text = true) :
    ∃ c rest, text.toList = c :: rest ∧ isNameStart c = true ∧
      ∀ d ∈ text.toList, isNameChar d = true := by
  unfold isNCName Text.isNCName at name
  split at name
  · cases name
  · next c rest spelled =>
    simp only [Bool.and_eq_true, List.all_eq_true] at name
    refine ⟨c, rest, spelled, name.1, ?_⟩
    intro d member
    rw [spelled] at member
    rcases List.mem_cons.mp member with rfl | member
    · exact isNameChar_of_isNameStart name.1
    · exact name.2 d member

/-- A name without a colon can stand in markup. -/
theorem compatible_of_isNCName {text : String} (name : isNCName text = true) :
    compatible text = true := by
  obtain ⟨_, _, _, _, all⟩ := isNCName_cons name
  rw [compatible, List.all_eq_true]
  exact fun d member => isTextChar_of_isNameChar (all d member)

/-- A name without a colon is a label without a namespace. -/
theorem ofText_plain {text : String} (name : isNCName text = true) :
    Name.ofText text = .ok (.bare text) := by
  obtain ⟨c, rest, spelled, start, _⟩ := isNCName_cons name
  have notBrace : c ≠ '\x7b' := by
    rintro rfl
    cases start
  rw [Name.ofText, if_pos (compatible_of_isNCName name), spelled]
  split
  · next same => cases same
  · next same =>
    cases same
    exact absurd rfl notBrace
  · rfl

theorem elementName_plain {text : String} (name : isNCName text = true) :
    elementName text = .ok (.bare text) := by
  rw [elementName, ofText_plain name, ok_bind]
  simp only [Name.bare, name, Bool.not_true, Bool.false_eq_true, if_false, ne_eq, not_true_eq_false,
    decide_false, Bool.false_and]

theorem attributeName_plain {text : String} (name : isNCName text = true) :
    attributeName text = .ok (.bare text) := by
  rw [attributeName, ofText_plain name, ok_bind]
  simp only [Name.bare, name, Bool.not_true, Bool.false_eq_true, if_false]

/-- A name without a colon, as a pattern, fits itself without a namespace and nothing else. -/
theorem pattern_plain {text : String} (name : isNCName text = true) :
    ∃ pattern, NamePattern.ofText text = .ok pattern ∧ ∀ n, pattern.fits n = (n == .bare text) := by
  obtain ⟨c, rest, spelled, start, _⟩ := isNCName_cons name
  have notStar : text ≠ "*" := by
    rintro rfl
    cases spelled
    cases start
  refine ⟨⟨some "", some text⟩, ?_, ?_⟩
  · rw [NamePattern.ofText, if_neg notStar, ofText_plain name, ok_bind]
    simp only [Name.bare, notStar, if_false]
    rfl
  · rintro ⟨uri, label⟩
    rw [Bool.eq_iff_iff, beq_iff_eq]
    simp only [NamePattern.fits, Option.all_some, Bool.and_eq_true, beq_iff_eq, Name.bare,
      Name.mk.injEq]
    exact ⟨fun same => ⟨same.1.symm, same.2.symm⟩, fun same => ⟨same.1.symm, same.2.symm⟩⟩

/-- The text of a name is a name without a colon only if the name has no namespace. -/
theorem text_eq_iff {text : String} (name : isNCName text = true) (n : Name) :
    n.text = text ↔ n = .bare text := by
  obtain ⟨c, rest, spelled, start, _⟩ := isNCName_cons name
  constructor
  · intro same
    unfold Name.text at same
    split at same
    · next none =>
      obtain ⟨uri, label⟩ := n
      rw [show uri = "" from none, show label = text from same]
      rfl
    · -- in braces a text does not begin like a name
      rw [← same] at spelled
      simp only [String.toList_append] at spelled
      cases spelled
      cases start
  · rintro rfl
    rfl

/-! ## Elements without namespaces -/

namespace Element

/-- An element with nothing but a name. -/
def blank (name : String) : Element := ⟨⟨.bare name, "", [], [], none⟩, []⟩

/-- The element with an attribute set, whose name has no namespace. -/
def withAttribute (key value : String) (e : Element) : Element :=
  ⟨{ e.head with attributes := putAttribute ⟨.bare key, "", value⟩ e.head.attributes }, e.children⟩

/-- A new element with a plain name is blank. -/
theorem new_plain {name : String} (isName : isNCName name = true) :
    Element.new name = .ok (.blank name) := by
  rw [Element.new, elementName_plain isName]
  rfl

/-- An attribute with a plain name is set unless its value is refused. -/
theorem setAttribute_plain {key : String} (isName : isNCName key = true) (above : Scope)
    (value : String) (e : Element) :
    e.setAttribute above key value =
      if compatible value then .ok (e.withAttribute key value) else .error .forbiddenText := by
  rw [setAttribute, attributeName_plain isName, ok_bind, checkText]
  split
  · rfl
  · rfl

/-- An attribute that was set has its value. -/
theorem attribute?_withAttribute (key value : String) (e : Element) :
    (e.withAttribute key value).attribute? (.bare key) = some value := by
  have found : ∀ attributes : List Attribute,
      ((putAttribute ⟨.bare key, "", value⟩ attributes).find? fun a => a.name == .bare key).map
        (·.value) = some value := by
    intro attributes
    induction attributes with
    | nil => simp only [putAttribute, List.find?_cons, beq_self_eq_true, Option.map_some]
    | cons a rest ih =>
      unfold putAttribute
      split
      · next same =>
        simp only [List.find?_cons, show a.name = .bare key from same, beq_self_eq_true,
          Option.map_some]
      · next other =>
        have differs : (a.name == Name.bare key) = false := beq_eq_false_iff_ne.mpr other
        simp only [List.find?_cons, differs, ih]
  exact found e.head.attributes

/-- Setting an attribute leaves the others alone. -/
theorem attribute?_withAttribute_of_ne {key : String} {name : Name} (other : name ≠ .bare key)
    (value : String) (e : Element) :
    (e.withAttribute key value).attribute? name = e.attribute? name := by
  have found : ∀ attributes : List Attribute,
      ((putAttribute ⟨.bare key, "", value⟩ attributes).find? fun a => a.name == name).map
        (·.value) = (attributes.find? fun a => a.name == name).map (·.value) := by
    have given : (Name.bare key == name) = false := beq_eq_false_iff_ne.mpr (Ne.symm other)
    intro attributes
    induction attributes with
    | nil => simp only [putAttribute, List.find?_cons, given, List.find?_nil]
    | cons a rest ih =>
      unfold putAttribute
      split
      · next same =>
        simp only [List.find?_cons, show a.name = .bare key from same, given]
      · simp only [List.find?_cons]
        split
        · rfl
        · exact ih
  exact found e.head.attributes

/-- The second of two values of an attribute wins. -/
theorem withAttribute_withAttribute (key value other : String) (e : Element) :
    (e.withAttribute key other).withAttribute key value = e.withAttribute key value := by
  have put : ∀ attributes : List Attribute,
      putAttribute ⟨.bare key, "", value⟩ (putAttribute ⟨.bare key, "", other⟩ attributes) =
        putAttribute ⟨.bare key, "", value⟩ attributes := by
    intro attributes
    induction attributes with
    | nil => exact if_pos rfl
    | cons a rest ih =>
      by_cases same : a.name = .bare key
      · simp only [putAttribute, if_pos same]
      · simp only [putAttribute, if_neg same, ih]
  rw [withAttribute, withAttribute, withAttribute, put]

end Element

/-! ## Trees without namespaces -/

/-- A head without namespaces. -/
structure Head.Plain (head : Head) : Prop where
  name : head.name.uri = ""
  declarations : head.declarations = []
  attributes : ∀ a ∈ head.attributes, a.name.uri = ""

mutual

/-- A node without namespaces, all the way down. -/
def Node.Plain : Node → Prop
  | .element head children _ => head.Plain ∧ AllPlain children
  | .comment _ _ | .instruction _ _ _ => True

/-- Nodes without namespaces. -/
def AllPlain : List Node → Prop
  | [] => True
  | node :: rest => node.Plain ∧ AllPlain rest

end

/-- An element without namespaces. -/
def Element.Plain (e : Element) : Prop := e.head.Plain ∧ AllPlain e.children

/-- Attributes without namespaces settle as they are. -/
theorem settleAttributes_plain {attributes : List Attribute}
    (plain : ∀ a ∈ attributes, a.name.uri = "") (above : Scope) (moves : Moves)
    (declared : List Declaration) (made : Nat) :
    settleAttributes above moves declared made attributes = (attributes, [], made) := by
  induction attributes generalizing declared with
  | nil => rfl
  | cons a rest ih =>
    have others := ih (fun b member => plain b (List.mem_cons_of_mem a member)) declared
    simp only [settleAttributes, Attribute.settle, if_pos (plain a List.mem_cons_self),
      List.append_nil, others]

/-- A head without namespaces settles as it is, and moves nothing. -/
theorem Head.settle_plain {head : Head} (plain : head.Plain) (scope : Scope) (moves : Moves)
    (made : Nat) : head.moves scope = [] ∧ head.settle scope moves made = (head, made) := by
  obtain ⟨name, nsPrefix, declarations, attributes, text⟩ := head
  obtain ⟨noNamespace, noDeclarations, plainAttributes⟩ := plain
  simp only at noNamespace noDeclarations plainAttributes
  subst noDeclarations
  refine ⟨rfl, ?_⟩
  simp only [Head.settle, Head.kept, List.filter_nil, settleAttributes_plain plainAttributes,
    noNamespace, if_true, List.append_nil]

mutual

/-- A node without namespaces settles as it is. -/
theorem Node.settle_plain (node : Node) (plain : node.Plain) (scope : Scope) (moves : Moves)
    (made : Nat) : node.settle scope moves made = (node, made) := by
  cases node with
  | element head children tail =>
    obtain ⟨noMoves, settled⟩ := head.settle_plain plain.1 scope (head.moves scope ++ moves) made
    have inside := settleAll_plain children plain.2 (head.frame :: scope)
      (head.moves scope ++ moves) made
    simp only [Node.settle, settled, inside]
  | comment content tail => rfl
  | instruction target content tail => rfl

/-- Nodes without namespaces settle as they are. -/
theorem settleAll_plain (nodes : List Node) (plain : AllPlain nodes) (scope : Scope)
    (moves : Moves) (made : Nat) : settleAll scope moves made nodes = (nodes, made) := by
  cases nodes with
  | nil => rfl
  | cons node rest =>
    have first := Node.settle_plain node plain.1 scope moves made
    have others := settleAll_plain rest plain.2 scope moves made
    simp only [settleAll, first, others]

end

/-- An element without namespaces settles as it is. -/
theorem Element.settle_plain {e : Element} (plain : e.Plain) (scope : Scope) (made : Nat) :
    e.settle scope made = (e, made) := by
  obtain ⟨_, settled⟩ := e.head.settle_plain plain.1 scope (e.head.moves scope) made
  have inside :=
    settleAll_plain e.children plain.2 (e.head.frame :: scope) (e.head.moves scope) made
  simp only [Element.settle, settled, inside]

theorem Element.plain_blank (name : String) : (Element.blank name).Plain :=
  ⟨⟨rfl, rfl, fun _ member => absurd member List.not_mem_nil⟩, trivial⟩

/-- Setting an attribute with a plain name brings no namespace. -/
theorem Element.Plain.withAttribute {e : Element} (plain : e.Plain) (key value : String) :
    (e.withAttribute key value).Plain := by
  have put : ∀ attributes : List Attribute, (∀ a ∈ attributes, a.name.uri = "") →
      ∀ a ∈ putAttribute ⟨.bare key, "", value⟩ attributes, a.name.uri = "" := by
    intro attributes
    induction attributes with
    | nil =>
      intro _ a member
      rw [List.mem_singleton.mp member]
      rfl
    | cons b rest ih =>
      intro all a member
      unfold putAttribute at member
      split at member
      · rcases List.mem_cons.mp member with rfl | member
        · exact all b List.mem_cons_self
        · exact all a (List.mem_cons_of_mem b member)
      · rcases List.mem_cons.mp member with rfl | member
        · exact all a List.mem_cons_self
        · exact ih (fun c inRest => all c (List.mem_cons_of_mem b inRest)) a member
  exact ⟨⟨plain.1.name, plain.1.declarations, put _ plain.1.attributes⟩, plain.2⟩

end XmlGraft.Xml
