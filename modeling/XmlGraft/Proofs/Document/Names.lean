import XmlGraft.Proofs.Data.Mappings
import XmlGraft.Proofs.Document.AppendOnly
import XmlGraft.Proofs.Document.Building
import XmlGraft.Proofs.Document.ReadBack

/-!
# Names in a tree — no write takes one away

The names in a tree are those of its elements and of their attributes (`Element.names`). They stay
what they are in new surroundings, where only prefixes change, and a write may add names but takes
none away (`Document.names_assignAll`). So what the names in a document are all like, those in the
documents that it came from were like too.

The names in a document that is built from data are those that its keys give
(`Document.names_ofValue`), so none of them has a namespace if no key gives one
(`Document.bare_ofValue`).
-/

namespace XmlGraft

open Xml XmlGraft.Path

namespace Xml

/-- The names of an element and of its attributes. -/
def Head.names (head : Head) : List Name := head.name :: head.attributes.map (·.name)

mutual

/-- The names in a node. -/
def Node.names : Node → List Name
  | .element head children _ => head.names ++ namesAll children
  | .comment _ _ | .instruction _ _ _ => []

/-- The names in some nodes. -/
def namesAll : List Node → List Name
  | [] => []
  | node :: rest => node.names ++ namesAll rest

end

/-- The names in an element. -/
def Element.names (e : Element) : List Name := e.head.names ++ namesAll e.children

/-- Setting an attribute takes no name away, and there is its own afterwards. -/
theorem names_putAttribute (given : Attribute) (attributes : List Attribute) :
    attributes.map (·.name) ⊆ (putAttribute given attributes).map (·.name) ∧
      given.name ∈ (putAttribute given attributes).map (·.name) := by
  induction attributes with
  | nil => exact ⟨List.nil_subset _, List.mem_singleton.mpr rfl⟩
  | cons a rest ih =>
    rw [putAttribute]
    split
    · next same => exact ⟨List.Subset.refl _, same ▸ List.mem_cons_self⟩
    · exact ⟨List.cons_subset_cons _ ih.1, List.mem_cons_of_mem _ ih.2⟩

/-- The names in some nodes are those in one of them. -/
theorem mem_namesAll {name : Name} {nodes : List Node} :
    name ∈ namesAll nodes ↔ ∃ node ∈ nodes, name ∈ node.names := by
  induction nodes with
  | nil => simp only [namesAll, List.not_mem_nil, false_and, exists_false]
  | cons node rest ih => simp only [namesAll, List.mem_append, ih, List.mem_cons, exists_eq_or_imp]

/-! ## New surroundings -/

/-- In new surroundings the names of a head stay what they are. -/
theorem Head.names_settle (scope : Scope) (moves : Moves) (made : Nat) (head : Head) :
    (head.settle scope moves made).1.names = head.names := by
  obtain ⟨name, _, contents⟩ := head.settle_content scope moves made
  have attributes := congrArg (List.map Prod.fst) contents
  rw [List.map_map, List.map_map] at attributes
  exact congrArg₂ List.cons name attributes

mutual

/-- In new surroundings the names in a node stay what they are. -/
theorem Node.names_settle (node : Node) (scope : Scope) (moves : Moves) (made : Nat) :
    (node.settle scope moves made).1.names = node.names := by
  cases node with
  | element head children tail =>
    have here := head.names_settle scope (head.moves scope ++ moves) made
    have inside := namesAll_settleAll children
      ((head.settle scope (head.moves scope ++ moves) made).1.frame :: scope)
      (head.moves scope ++ moves) (head.settle scope (head.moves scope ++ moves) made).2
    simp only [Node.settle, Node.names, here, inside]
  | comment content tail => rfl
  | instruction target content tail => rfl

/-- So do those in nodes side by side. -/
theorem namesAll_settleAll (nodes : List Node) (scope : Scope) (moves : Moves) (made : Nat) :
    namesAll (settleAll scope moves made nodes).1 = namesAll nodes := by
  cases nodes with
  | nil => rfl
  | cons node rest =>
    have first := Node.names_settle node scope moves made
    have others := namesAll_settleAll rest scope moves (node.settle scope moves made).2
    rw [settleAll, namesAll, namesAll, first, others]

end

namespace Element

/-- In new surroundings the names in an element stay what they are. -/
theorem names_settle (e : Element) (scope : Scope) (made : Nat) :
    (e.settle scope made).1.names = e.names := by
  have here := e.head.names_settle scope (e.head.moves scope) made
  have inside := namesAll_settleAll e.children
    ((e.head.settle scope (e.head.moves scope) made).1.frame :: scope) (e.head.moves scope)
    (e.head.settle scope (e.head.moves scope) made).2
  simp only [settle, names, here, inside]

/-- The names in an element with another appended are those in both. -/
theorem mem_names_append {e child : Element} {name : Name} :
    name ∈ (e.append child).names ↔ name ∈ e.names ∨ name ∈ child.names := by
  have settled : (child.settle [e.head.frame] 0).1.node.names = child.names :=
    names_settle child [e.head.frame] 0
  simp only [append, names, List.mem_append, mem_namesAll, List.mem_singleton, or_and_right,
    exists_or, exists_eq_left, settled, or_assoc]

/-- The names in an element with others appended are those in all of them. -/
theorem mem_names_appendAll {e : Element} {children : List Element} {name : Name} :
    name ∈ (e.appendAll children).names ↔
      name ∈ e.names ∨ ∃ child ∈ children, name ∈ child.names := by
  induction children generalizing e with
  | nil =>
    simp only [appendAll, List.foldl_nil, List.not_mem_nil, false_and, exists_false, or_false]
  | cons child rest ih =>
    have others := ih (e := e.append child)
    rw [appendAll] at others
    rw [appendAll, List.foldl_cons, others, mem_names_append, or_assoc]
    simp only [List.mem_cons, exists_eq_or_imp]

/-! ## Walks -/

/-- Dropping the tails of nodes leaves the names in them. -/
theorem namesAll_withTail (tail : Option String) (nodes : List Node) :
    namesAll (nodes.map (Node.withTail tail)) = namesAll nodes := by
  induction nodes with
  | nil => rfl
  | cons node rest ih =>
    have first : (node.withTail tail).names = node.names := by
      cases node with
      | _ => rfl
    rw [List.map_cons, namesAll, namesAll, first, ih]

/-- Writing a text leaves the names. -/
theorem names_writeText (value : Option String) (e : Element) :
    (e.writeText value).1.names = e.names := by
  cases value with
  | none => rfl
  | some text =>
    rw [writeText, setText]
    split
    · exact congrArg (e.head.names ++ ·) (namesAll_withTail none e.children)
    · rfl

/-- Setting an attribute takes no name away. -/
theorem names_withAttribute (key value : String) (e : Element) :
    e.names ⊆ (e.withAttribute key value).names := by
  intro name member
  rcases List.mem_append.mp member with member | member
  · have attributes := names_putAttribute ⟨.bare key, "", value⟩ e.head.attributes
    exact List.mem_append_left _ (List.cons_subset_cons e.head.name attributes.1 member)
  · exact List.mem_append_right _ member

/-- The names in a focus are those around its target and those in it. -/
theorem mem_names_whole {f : Focus} {name : Name} :
    name ∈ f.whole.names ↔
      (name ∈ f.head.names ∨ ∃ node ∈ f.before, name ∈ node.names) ∨
        name ∈ f.target.names ∨ ∃ node ∈ f.after, name ∈ node.names := by
  have target : (Node.element f.target.head f.target.children f.tail).names = f.target.names := rfl
  simp only [names, Focus.whole, List.mem_append, mem_namesAll, List.mem_cons, or_and_right,
    exists_or, exists_eq_left, target, or_assoc]

/-- A walk takes no name away, whatever it ends with. -/
theorem names_place {steps : List Part} (tail : IsTail steps) (value : Option String)
    (e : Element) : e.names ⊆ (e.place value steps).1.names := by
  induction tail generalizing e with
  | nil =>
    rw [place, names_writeText]
    exact List.Subset.refl _
  | last isName =>
    rw [place]
    split
    · next wrote =>
      rcases writeAttribute_eq_ok isName wrote with rfl | ⟨_, _, rfl⟩
      · exact names_withAttribute _ _ e
      · exact List.Subset.refl _
    · exact List.Subset.refl _
  | @step step rest head tail ih =>
    rw [place_step head]
    cases designated : e.designated step with
    | none => exact List.Subset.refl _
    | some f =>
      obtain ⟨sameHead, added, children, _⟩ := whole_of_designated designated
      intro name member
      have inWhole : name ∈ f.whole.names := by
        rw [names, show f.whole.head = e.head from sameHead, children]
        rcases List.mem_append.mp member with member | member
        · exact List.mem_append_left _ member
        · obtain ⟨node, inChildren, member⟩ := mem_namesAll.mp member
          exact List.mem_append_right _
            (mem_namesAll.mpr ⟨node, List.mem_append_left _ inChildren, member⟩)
      refine (mem_names_whole (f := f.retarget _)).mpr ?_
      exact (mem_names_whole.mp inWhole).imp_right
        (Or.imp_left fun inTarget => ih f.target inTarget)

end Element

end Xml

namespace Document

/-! ## Documents -/

/-- The names in a document. -/
def names (d : Document) : List Name := (d.root.map Element.names).getD []

/-- A walk down from a document takes no name away. -/
theorem names_graftSteps {steps : List Part} (path : WellFormed steps) (value : Option String)
    (d : Document) : d.names ⊆ (d.graftSteps value steps).1.names := by
  cases steps with
  | nil => exact path.elim
  | cons step rest =>
    cases rooted : d.root with
    | none =>
      rw [names, rooted]
      exact List.nil_subset _
    | some root =>
      rw [graftSteps_eq path, reach_eq path.1, resolution_rooted rooted]
      split
      · next left fault same =>
        split at same
        · cases same
        · cases same
          exact List.Subset.refl _
      · next left reached same =>
        split at same
        · cases same
          rw [names, rooted]
          exact Element.names_place path.2 value root
        · cases same

/-- What a write leaves: the document as it was, or what the walk along a path leaves. -/
theorem assign_cases (path value : Data.Value) (d : Document) :
    (d.assign path value).1 = d ∨ ∃ steps text, stepsOf path = .ok steps ∧
      (d.assign path value).1 = (d.graftSteps text steps).1 := by
  cases read : stepsOf path with
  | error fault =>
    refine .inl ?_
    unfold assign
    rw [read]
  | ok steps =>
    by_cases given : value = .null
    · subst given
      exact .inr ⟨steps, none, rfl, by rw [assign_null read]⟩
    · rw [assign_given read given]
      cases value.spell with
      | error fault => exact .inl rfl
      | ok text => exact .inr ⟨steps, some text, rfl, rfl⟩

/-- A run of writes takes no name away, whatever each of them ends with. -/
theorem names_assignAll (writes : List (Data.Value × Data.Value)) (d : Document) :
    d.names ⊆ (d.assignAll writes).names := by
  induction writes generalizing d with
  | nil => exact List.Subset.refl _
  | cons write rest ih =>
    have first : d.names ⊆ (d.assign write.1 write.2).1.names := by
      rcases assign_cases write.1 write.2 d with same | ⟨steps, text, read, same⟩
      · rw [same]
        exact List.Subset.refl _
      · rw [same]
        exact names_graftSteps (wellFormed_of_stepsOf read) text d
    exact List.Subset.trans first (ih _)

end Document

/-! ## Building -/

namespace Xml

/-- The name of a new element has a label without a colon. -/
theorem isNCName_of_elementName {s : String} {n : Name} (judged : elementName s = .ok n) :
    isNCName n.label = true := by
  obtain ⟨name, _, rest⟩ := bind_eq_ok.mp judged
  split at rest
  · cases rest
  · next isName =>
    split at rest
    · cases rest
    · cases rest
      simpa only [Bool.not_eq_true', Bool.not_eq_false] using isName

/-- The name of an attribute is read from its key, and has a label without a colon. -/
theorem isNCName_of_attributeName {s : String} {n : Name} (judged : Xml.attributeName s = .ok n) :
    Name.ofText s = .ok n ∧ isNCName n.label = true := by
  obtain ⟨name, read, rest⟩ := bind_eq_ok.mp judged
  split at rest
  · cases rest
  · next isName =>
    cases rest
    exact ⟨read, by simpa only [Bool.not_eq_true', Bool.not_eq_false] using isName⟩

/-- The names that a text spells, of those that can be given, are all of some kind. -/
def SpellsOnly (kind : Name → Prop) (text : String) : Prop :=
  ∀ name, Name.ofText text = .ok name → isNCName name.label = true → kind name

end Xml

namespace Data

/-- A key gives a name without a namespace, if it gives one. -/
def BareKey (key : String) : Prop := ∀ name, Name.ofText (entryName key) = .ok name → name.uri = ""

/-- The names of attributes and elements have no namespace. -/
def Unnamespaced (entries : List (String × Value)) : Prop := ∀ entry ∈ entries, BareKey entry.1

/-- The names of attributes and elements are all of some kind. -/
def Gives (kind : Name → Prop) (entries : List (String × Value)) : Prop :=
  ∀ entry ∈ entries, SpellsOnly kind (entryName entry.1)

variable {kind : Name → Prop} {entries : List (String × Value)}

/-- The names that attribute entries give are read from what follows the mark. -/
theorem Gives.attributesOf (gives : Gives kind entries) :
    ∀ a ∈ Value.attributesOf entries, SpellsOnly kind a.1 := by
  intro a member
  obtain ⟨entry, kept, rfl⟩ := List.mem_map.mp member
  obtain ⟨inEntries, marked⟩ := List.mem_filter.mp kept
  have spells := gives entry inEntries
  rwa [entryName, if_pos marked] at spells

/-- The name that an element entry gives is read from its key. -/
theorem Gives.key (gives : Gives kind entries) {entry : String × Value} (member : entry ∈ entries)
    (unmarked : ¬marksAttribute entry.1 = true) : SpellsOnly kind entry.1 := by
  have spells := gives entry member
  rwa [entryName, if_neg unmarked] at spells

end Data

namespace Xml.Element

open Data

variable {kind : Name → Prop}

/-- The name of a new element is read from its key. -/
theorem ofText_of_new {tag : String} {e : Element} (made : Element.new tag = .ok e) :
    Name.ofText tag = .ok e.name := by
  obtain ⟨name, read, checked⟩ := bind_eq_ok.mp (new_eq_ok made).1
  split at checked
  · cases checked
  · split at checked
    · cases checked
    · exact read.trans checked

/-- The name of a new element is one that its key spells. -/
theorem kind_of_new {tag : String} {e : Element} (spells : SpellsOnly kind tag)
    (made : Element.new tag = .ok e) : kind e.name :=
  spells e.name (ofText_of_new made) (isNCName_of_elementName (new_eq_ok made).1)

/-- Setting attributes one by one keeps the name of the element and its children, takes no name
of an attribute away, and adds those that are read from the keys. -/
theorem names_setAttributes {attributes : List (String × Value)} {e left : Element}
    (set : e.setAttributes attributes = .ok left) :
    left.name = e.name ∧ left.children = e.children ∧
      e.head.attributes.map (·.name) ⊆ left.head.attributes.map (·.name) ∧
      ∀ name ∈ left.head.attributes.map (·.name),
        name ∈ e.head.attributes.map (·.name) ∨
          ∃ a ∈ attributes, Xml.attributeName a.1 = .ok name := by
  induction attributes generalizing e with
  | nil =>
    cases set
    exact ⟨rfl, rfl, List.Subset.refl _, fun _ member => .inl member⟩
  | cons entry rest ih =>
    obtain ⟨next, setFirst, setOthers⟩ := bind_eq_ok.mp set
    obtain ⟨given, judged, checked⟩ := bind_eq_ok.mp setFirst
    obtain ⟨_, _, same⟩ := bind_eq_ok.mp checked
    cases same
    obtain ⟨nsPrefix, put, named, _⟩ := e.head.putAttribute_eq [] given (attributeText entry.2)
    obtain ⟨renamed, children, others, added⟩ := ih setOthers
    rw [put] at others added
    refine ⟨renamed.trans named, children,
      List.Subset.trans (names_putAttribute _ e.head.attributes).1 others, fun name member => ?_⟩
    rcases added name member with before | ⟨a, inRest, read⟩
    · rcases mem_names_putAttribute before with rfl | before
      · exact .inr ⟨entry, List.mem_cons_self, judged⟩
      · exact .inl before
    · exact .inr ⟨a, List.mem_cons_of_mem _ inRest, read⟩

mutual

/-- All names in an element are of some kind, if the keys that it is built from spell only such. -/
theorem names_ofValue (value : Value) (gives : value.Throughout (Gives kind)) {tag : String}
    (spells : SpellsOnly kind tag) {e : Element} (built : ofValue tag value = .ok e) :
    ∀ name ∈ e.names, kind name := by
  cases value with
  | scalar text =>
    obtain ⟨start, made, rest⟩ := bind_eq_ok.mp built
    obtain ⟨_, _, same⟩ := bind_eq_ok.mp rest
    cases same
    obtain ⟨_, noAttributes, _, noChildren⟩ := new_eq_ok made
    intro name member
    have own : (start.withText text).names = [start.name] := by
      rw [names, withText, noChildren]
      dsimp only [Head.names]
      rw [noAttributes]
      rfl
    rw [own] at member
    rw [List.mem_singleton.mp member]
    exact kind_of_new spells made
  | mapping entries =>
    obtain ⟨_, none, _⟩ | ⟨_, start, marked, children, same, made, set, builtChildren, rfl⟩ :=
      ofValue_cases built
    · cases none
    cases same
    obtain ⟨_, noAttributes, _, noChildren⟩ := new_eq_ok made
    intro name member
    rcases mem_names_appendAll.mp member with member | ⟨child, inChildren, member⟩
    · obtain ⟨named, sameChildren, _, added⟩ := names_setAttributes set
      rw [names, Head.names, sameChildren, noChildren, namesAll, List.append_nil] at member
      rcases List.mem_cons.mp member with rfl | member
      · have own := kind_of_new spells made
        rwa [← named] at own
      · rcases added name member with before | ⟨a, isAttribute, judged⟩
        · rw [noAttributes] at before
          exact absurd before List.not_mem_nil
        · obtain ⟨read, isName⟩ := isNCName_of_attributeName judged
          exact gives.1.attributesOf a isAttribute name read isName
    · exact names_ofEntries entries gives.1 gives.2 builtChildren child inChildren name member
  | _ =>
    obtain ⟨_, none, _⟩ | ⟨_, _, _, _, none, _⟩ := ofValue_cases built
    · cases none
    · cases none

/-- So it is with the elements that entries denote. -/
theorem names_ofEntries (entries : List (String × Value)) (givesHere : Gives kind entries)
    (gives : EntriesThroughout (Gives kind) entries) {children : List Element}
    (built : ofEntries entries = .ok children) :
    ∀ child ∈ children, ∀ name ∈ child.names, kind name := by
  cases entries with
  | nil =>
    cases built
    exact fun _ member => absurd member List.not_mem_nil
  | cons entry rest =>
    obtain ⟨key, value⟩ := entry
    have givesRest : Gives kind rest := fun other member =>
      givesHere other (List.mem_cons_of_mem _ member)
    by_cases marked : marksAttribute key = true
    · rw [ofEntries_marked marked] at built
      exact names_ofEntries rest givesRest gives.2 built
    · have spells := givesHere.key List.mem_cons_self marked
      have one : ¬value.isSequence = true →
          ∀ child ∈ children, ∀ name ∈ child.names, kind name := by
        intro single
        obtain ⟨first, others, builtFirst, builtOthers, rfl⟩ :=
          (ofEntries_single marked single).mp built
        exact List.forall_mem_cons.mpr ⟨names_ofValue value gives.1 spells builtFirst,
          names_ofEntries rest givesRest gives.2 builtOthers⟩
      cases value with
      | sequence items =>
        obtain ⟨first, others, builtFirst, builtOthers, rfl⟩ :=
          (ofEntries_sequence marked).mp built
        exact List.forall_mem_append.mpr ⟨names_ofItems items gives.1 spells builtFirst,
          names_ofEntries rest givesRest gives.2 builtOthers⟩
      | _ => exact one Bool.false_ne_true

/-- So it is with the elements that items denote. -/
theorem names_ofItems (items : List Value) (gives : ItemsThroughout (Gives kind) items)
    {tag : String} (spells : SpellsOnly kind tag) {children : List Element}
    (built : ofItems tag items = .ok children) :
    ∀ child ∈ children, ∀ name ∈ child.names, kind name := by
  cases items with
  | nil =>
    cases built
    exact fun _ member => absurd member List.not_mem_nil
  | cons item rest =>
    obtain ⟨first, others, builtFirst, builtOthers, rfl⟩ := ofItems_cons.mp built
    exact List.forall_mem_cons.mpr ⟨names_ofValue item gives.1 spells builtFirst,
      names_ofItems rest gives.2 spells builtOthers⟩

end

end Xml.Element

namespace Document

/-- All names in a document are of some kind, if the keys that it is built from spell only such. -/
theorem names_ofValue {kind : Name → Prop} {value wrapped : Data.Value}
    (wraps : value.wrap = .ok wrapped) (gives : wrapped.Throughout (Data.Gives kind))
    {d : Document} (built : ofValue value = .ok d) : ∀ name ∈ d.names, kind name := by
  rw [ofValue, wraps, ok_bind] at built
  obtain ⟨entry, found, rest⟩ := bind_eq_ok.mp built
  obtain ⟨rfl, unmarked⟩ := Data.documentEntry?_eq_ok found
  cases entry with
  | none =>
    cases rest
    exact fun _ member => absurd member List.not_mem_nil
  | some entry =>
    obtain ⟨root, builtRoot, same⟩ := bind_eq_ok.mp rest
    cases same
    have spells := gives.1.key List.mem_cons_self (unmarked entry rfl).1
    exact Element.names_ofValue entry.2 gives.2.1 spells builtRoot

/-- No name in a document has a namespace, if no key that it is built from gives one. -/
theorem bare_ofValue {value wrapped : Data.Value} (wraps : value.wrap = .ok wrapped)
    (bare : wrapped.Throughout Data.Unnamespaced) {d : Document} (built : ofValue value = .ok d) :
    ∀ name ∈ d.names, name.uri = "" := by
  refine names_ofValue wraps (bare.imp ?_ wrapped) built
  exact fun entries bare entry member name read _ => bare entry member name read

end Document

end XmlGraft
