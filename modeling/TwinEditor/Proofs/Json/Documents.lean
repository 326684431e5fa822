import TwinEditor.Markdown.TreeJson
import TwinEditor.Proofs.Json.ReadBack
import TwinEditor.RichText.DocumentJson

/-!
# Documents that come back from their JSON text

Markdown trees and rich-text documents are written as JSON with rules of their own for what is left out,
and read with rules of their own for what may be missing. Between them nothing is lost: every tree and
every document that nests no deeper than a reader follows comes back from its text.
-/

namespace TwinEditor

namespace Json

section Variants

variable {members : List (String × Json)} (noType : ∀ member ∈ members, member.1 ≠ "type")
include noType

/-- The kind and the fields of a variant are those it was written with. -/
theorem variant?_variant
    (nested : Bool)
    (kind : String) :
    (variant kind members).variant? nested = some (.named kind, .named members) := by
  have others : members.filter (·.1 == "type") = [] := by
    rw [List.filter_eq_nil_iff]
    intro member isMember
    simp [noType member isMember]
  have kept : members.filter (·.1 != "type") = members := by
    rw [List.filter_eq_self]
    intro member isMember
    simp [noType member isMember]
  rw [variant, variant?]
  simp only [List.filter_cons, BEq.rfl, if_true, others, bne_self_eq_false, Bool.false_eq_true, if_false,
    kept]
  rfl

/-- A variant is read from the kind and the members that it was written with. -/
theorem variantWithin?_variant
    {α : Type}
    (ofFields? : (Json → Option α) → KindTag → Fields → Option α)
    (bound : Nat)
    (nested : Bool)
    (kind : String) :
    variantWithin? ofFields? (bound + 1) nested (variant kind members) =
      ofFields? (variantWithin? ofFields? bound true) (.named kind) (.named members) := by
  rw [variantWithin?, variant?_variant noType]
  rfl

end Variants

/-- Values come back from a list of what each of them is written as. -/
theorem mapM_map
    {α : Type}
    {write : α → Json}
    {read : Json → Option α}
    (reads : ∀ value, read (write value) = some value)
    (values : List α) :
    (values.map write).mapM read = some values := by
  induction values with
  | nil => rfl
  | cons value values inductionHypothesis =>
      rw [List.map_cons, List.mapM_cons, inductionHypothesis, reads]
      rfl

/-- A byte is written as an integer that is read as it. -/
theorem natBelow?_ofNat (value : UInt8) : natBelow? 256 (.ofNat value.toNat) = some value.toNat :=
  natBelow?_ofNat_of_lt value.toNat_lt

theorem isPlain_ofNat (value : UInt8) : (ofNat value.toNat).isPlain = true :=
  isPlain_ofNat_of_lt (Nat.lt_trans value.toNat_lt (by decide))

mutual

theorem hasValue_of_isPlain : (json : Json) → json.isPlain = true → json.hasValue = true
  | .null, _ | .bool _, _ | .integer _, _ | .string _, _ => rfl
  | .array items, plain => by
      rw [isPlain] at plain
      rw [hasValue, itemsHaveValue_of_arePlain items plain]
  | .object members, plain => by
      rw [isPlain] at plain
      rw [hasValue, membersHaveValue_of_arePlain members plain]

theorem itemsHaveValue_of_arePlain :
    (items : List Json) → arePlainItems items = true → itemsHaveValue items = true
  | [], _ => rfl
  | item :: rest, plain => by
      rw [arePlainItems, Bool.and_eq_true] at plain
      rw [itemsHaveValue, hasValue_of_isPlain item plain.1, itemsHaveValue_of_arePlain rest plain.2]
      rfl

theorem membersHaveValue_of_arePlain :
    (members : List (String × Json)) → arePlainMembers members = true → membersHaveValue members = true
  | [], _ => rfl
  | (name, value) :: rest, plain => by
      rw [arePlainMembers, Bool.and_eq_true] at plain
      rw [membersHaveValue, hasValue_of_isPlain value plain.1, membersHaveValue_of_arePlain rest plain.2]
      rfl

end

end Json

/-! ## Markdown trees -/

namespace Markdown
namespace Node

theorem ofJsonWithin?_variant
    (bound : Nat)
    (nested : Bool)
    (kind : String)
    {members : List (String × Json)}
    (noType : ∀ member ∈ members, member.1 ≠ "type") :
    ofJsonWithin? (bound + 1) nested (.variant kind members) =
      ofFields? (ofJsonWithin? bound true) kind (.named members) :=
  Json.variantWithin?_variant noType _ bound nested kind

mutual

/-- A node comes back from its JSON value. -/
theorem ofJsonWithin?_toJson :
    (node : Node) → (bound : Nat) → (nested : Bool) → node.toJson.depth < bound →
      ofJsonWithin? bound nested node.toJson = some node
  | .heading depth children, bound + 1, nested, enough => by
      simp only [toJson, Json.variant, Json.depth, Json.depthOfMembers] at enough
      have inside := mapM_toJsons children bound (by omega)
      rw [toJson, ofJsonWithin?_variant bound nested _ (by simp)]
      simp [ofFields?, Json.Fields.read?, Json.optionalList?, inside, Json.natBelow?_ofNat]
  | .table align children, bound + 1, nested, enough => by
      simp only [toJson, Json.variant, Json.depth, Json.depthOfMembers] at enough
      have inside := mapM_toJsons children bound (by omega)
      have alignments := @Json.mapM_map Alignment (.string ·.name) Alignment.ofJson? Alignment.ofName?_name align
      rw [toJson, ofJsonWithin?_variant bound nested _ (by simp)]
      simp [ofFields?, Json.Fields.read?, Json.optionalList?, inside, alignments, -List.mapM_map]
  | .paragraph children, bound + 1, nested, enough
  | .list ordered children, bound + 1, nested, enough
  | .listItem children, bound + 1, nested, enough
  | .blockquote children, bound + 1, nested, enough
  | .strong children, bound + 1, nested, enough
  | .emphasis children, bound + 1, nested, enough
  | .link url children, bound + 1, nested, enough
  | .delete children, bound + 1, nested, enough
  | .tableRow children, bound + 1, nested, enough
  | .tableCell children, bound + 1, nested, enough => by
      simp only [toJson, Json.variant, Json.depth, Json.depthOfMembers] at enough
      have inside := mapM_toJsons children bound (by omega)
      rw [toJson, ofJsonWithin?_variant bound nested _ (by simp)]
      simp [ofFields?, Json.Fields.read?, Json.optionalList?, inside]
  | .code none value, bound + 1, nested, _
  | .code (some lang) value, bound + 1, nested, _
  | .thematicBreak, bound + 1, nested, _
  | .text value, bound + 1, nested, _
  | .inlineCode value, bound + 1, nested, _
  | .lineBreak, bound + 1, nested, _
  | .html value, bound + 1, nested, _
  | .image url alt, bound + 1, nested, _ => by
      rw [toJson, ofJsonWithin?_variant bound nested _ (by simp)]
      simp [ofFields?, Json.Fields.read?, Json.withoutFields?, Json.optionalString?, Json.string?]

/-- Nodes come back from their JSON values. -/
theorem mapM_toJsons :
    (nodes : List Node) → (bound : Nat) → Json.depthOfItems (toJsons nodes) < bound →
      (toJsons nodes).mapM (ofJsonWithin? bound true) = some nodes
  | [], bound, enough => rfl
  | node :: rest, bound, enough => by
      rw [toJsons, Json.depthOfItems] at enough
      rw [toJsons, List.mapM_cons, ofJsonWithin?_toJson node bound true (by omega),
        mapM_toJsons rest bound (by omega)]
      rfl

end

mutual

/-- A node is written as a value that reads as it. -/
theorem isPlain_toJson : (node : Node) → node.toJson.isPlain = true
  | .heading depth children => by
      simp [toJson, Json.variant, Json.isPlain, Json.arePlainMembers, Json.isPlain_ofNat,
        arePlain_toJsons children]
  | .table align children => by
      have alignments : Json.arePlainItems (align.map fun a => .string a.name) = true := by
        induction align with
        | nil => rfl
        | cons a align inductionHypothesis => exact inductionHypothesis
      simp [toJson, Json.variant, Json.isPlain, Json.arePlainMembers, alignments,
        arePlain_toJsons children]
  | .paragraph children | .list ordered children | .listItem children | .blockquote children
  | .strong children | .emphasis children | .link url children | .delete children
  | .tableRow children | .tableCell children => by
      simp [toJson, Json.variant, Json.isPlain, Json.arePlainMembers, arePlain_toJsons children]
  | .code none value | .code (some lang) value | .thematicBreak | .text value | .inlineCode value
  | .lineBreak | .html value | .image url alt => by
      simp [toJson, Json.variant, Json.isPlain, Json.arePlainMembers]

theorem arePlain_toJsons : (nodes : List Node) → Json.arePlainItems (toJsons nodes) = true
  | [] => rfl
  | node :: rest => by
      rw [toJsons, Json.arePlainItems, isPlain_toJson node, arePlain_toJsons rest]
      rfl

end

theorem mapM_ofJson?_toJsons (nodes : List Node) : (toJsons nodes).mapM ofJson? = some nodes := by
  induction nodes with
  | nil => rfl
  | cons node rest inductionHypothesis =>
      rw [toJsons, List.mapM_cons, inductionHypothesis, ofJson?,
        ofJsonWithin?_toJson node _ false (Nat.lt_succ_self _)]
      rfl

end Node

namespace Tree

theorem isPlain_toJson (tree : Tree) : tree.toJson.isPlain = true := by
  simp [toJson, Json.variant, Json.isPlain, Json.arePlainMembers, Node.arePlain_toJsons]

/-- A tree comes back from its JSON value. -/
theorem ofJson?_toJson (tree : Tree) : ofJson? tree.toJson = some tree := by
  have children := Node.mapM_ofJson?_toJsons tree.children
  simp [ofJson?, toJson, Json.variant, Json.Fields.ofJson?, Json.Fields.read?, Json.optionalList?,
    children]

end Tree
end Markdown

/-! ## Rich-text documents -/

namespace RichText

namespace Mark

/-- A mark comes back from its JSON value. -/
theorem ofJson?_toJson (mark : Mark) : ofJson? mark.toJson = some mark := by
  have read (kind : String) (members : List (String × Json))
      (noType : ∀ member ∈ members, member.1 ≠ "type") :
      (Json.variant kind members).variant? true = some (.named kind, .named members) :=
    Json.variant?_variant noType true kind
  match mark with
  | .bold => rw [ofJson?, toJson, read _ _ (by simp)]; rfl
  | .italic => rw [ofJson?, toJson, read _ _ (by simp)]; rfl
  | .code => rw [ofJson?, toJson, read _ _ (by simp)]; rfl
  | .link href none => rw [ofJson?, toJson, read _ _ (by simp)]; rfl
  | .link href (some target) => rw [ofJson?, toJson, read _ _ (by simp)]; rfl
  | .unsupported => rw [ofJson?, toJson, read _ _ (by simp)]; rfl

theorem isPlain_toJson (mark : Mark) : mark.toJson.isPlain = true := by
  match mark with
  | .bold | .italic | .code | .link href none | .link href (some target) | .unsupported => rfl

theorem arePlain_toJson (marks : List Mark) : Json.arePlainItems (marks.map toJson) = true := by
  induction marks with
  | nil => rfl
  | cons mark marks inductionHypothesis =>
      rw [List.map_cons, Json.arePlainItems, isPlain_toJson, inductionHypothesis]
      rfl

end Mark

namespace Node

theorem ofJsonWithin?_variant
    (bound : Nat)
    (nested : Bool)
    (kind : String)
    {members : List (String × Json)}
    (noType : ∀ member ∈ members, member.1 ≠ "type") :
    ofJsonWithin? (bound + 1) nested (.variant kind members) =
      ofFields? (ofJsonWithin? bound true) (some kind) (.named members) :=
  Json.variantWithin?_variant noType _ bound nested kind

theorem levelOfJson?_ofNat (level : UInt8) :
    levelOfJson? (some (.object [("level", .ofNat level.toNat)])) = some level := by
  simp [levelOfJson?, Json.Fields.ofJson?, Json.Fields.read?, Json.natBelow?_ofNat]

theorem languageOfJson?_ofOptionalString (language : Option String) :
    languageOfJson? (some (.object [("language", .ofOptionalString language)])) = some language := by
  cases language <;> rfl

/-- Content that is not empty is written. -/
theorem unlessEmpty_toJsons_cons
    (name : String)
    (node : Node)
    (rest : List Node) :
    unlessEmpty name (toJsons (node :: rest)) = [(name, .array (toJsons (node :: rest)))] :=
  rfl

theorem unlessEmpty_toJsons_nil (name : String) : unlessEmpty name (toJsons []) = [] :=
  rfl

mutual

/-- A node comes back from its JSON value. -/
theorem ofJsonWithin?_toJson :
    (node : Node) → (bound : Nat) → (nested : Bool) → node.toJson.depth < bound →
      ofJsonWithin? bound nested node.toJson = some node
  | .heading level (node :: rest), bound + 1, nested, enough
  | .codeBlock language (node :: rest), bound + 1, nested, enough
  | .paragraph (node :: rest), bound + 1, nested, enough => by
      simp only [toJson, Json.variant, unlessEmpty_toJsons_cons, Json.depth, Json.depthOfMembers] at enough
      have inside := mapM_toJsons (node :: rest) bound (by omega)
      rw [toJson, unlessEmpty_toJsons_cons, ofJsonWithin?_variant bound nested _ (by simp)]
      simp [ofFields?, Json.Fields.read?, Json.optionalList?, levelOfJson?_ofNat,
        languageOfJson?_ofOptionalString, inside]
  | .heading level [], bound + 1, nested, _
  | .codeBlock language [], bound + 1, nested, _
  | .paragraph [], bound + 1, nested, _ => by
      rw [toJson, unlessEmpty_toJsons_nil, ofJsonWithin?_variant bound nested _ (by simp)]
      simp [ofFields?, Json.Fields.read?, Json.optionalList?, levelOfJson?_ofNat,
        languageOfJson?_ofOptionalString]
  | .bulletList content, bound + 1, nested, enough
  | .orderedList content, bound + 1, nested, enough
  | .listItem content, bound + 1, nested, enough
  | .blockquote content, bound + 1, nested, enough => by
      simp only [toJson, Json.variant, Json.depth, Json.depthOfMembers] at enough
      have inside := mapM_toJsons content bound (by omega)
      rw [toJson, ofJsonWithin?_variant bound nested _ (by simp)]
      simp [ofFields?, Json.Fields.read?, Json.optionalList?, inside]
  | .text value (mark :: marks), bound + 1, nested, _ => by
      have read := Json.mapM_map Mark.ofJson?_toJson (mark :: marks)
      rw [toJson, ofJsonWithin?_variant bound nested _ (by simp [unlessEmpty])]
      simp only [List.map_cons] at read
      simp [ofFields?, Json.Fields.read?, Json.optionalList?, unlessEmpty, Json.string?, read]
  | .text value [], bound + 1, nested, _
  | .horizontalRule, bound + 1, nested, _
  | .unsupported, bound + 1, nested, _ => by
      rw [toJson, ofJsonWithin?_variant bound nested _ (by simp [unlessEmpty])]
      rfl

/-- Nodes come back from their JSON values. -/
theorem mapM_toJsons :
    (nodes : List Node) → (bound : Nat) → Json.depthOfItems (toJsons nodes) < bound →
      (toJsons nodes).mapM (ofJsonWithin? bound true) = some nodes
  | [], bound, enough => rfl
  | node :: rest, bound, enough => by
      rw [toJsons, Json.depthOfItems] at enough
      rw [toJsons, List.mapM_cons, ofJsonWithin?_toJson node bound true (by omega),
        mapM_toJsons rest bound (by omega)]
      rfl

end

mutual

/-- A node is written as a value that reads as it. -/
theorem isPlain_toJson : (node : Node) → node.toJson.isPlain = true
  | .heading level (node :: rest) | .codeBlock none (node :: rest)
  | .codeBlock (some language) (node :: rest) | .paragraph (node :: rest) => by
      simp [toJson, Json.variant, unlessEmpty_toJsons_cons, Json.isPlain, Json.arePlainMembers,
        Json.isPlain_ofNat, Json.ofOptionalString, arePlain_toJsons (node :: rest)]
  | .heading level [] | .codeBlock none [] | .codeBlock (some language) [] | .paragraph [] => by
      simp [toJson, Json.variant, unlessEmpty_toJsons_nil, Json.isPlain, Json.arePlainMembers,
        Json.isPlain_ofNat, Json.ofOptionalString]
  | .bulletList content | .orderedList content | .listItem content | .blockquote content => by
      simp [toJson, Json.variant, Json.isPlain, Json.arePlainMembers, arePlain_toJsons content]
  | .text value (mark :: marks) => by
      have plain := Mark.arePlain_toJson (mark :: marks)
      simpa [toJson, Json.variant, unlessEmpty, Json.isPlain, Json.arePlainMembers] using plain
  | .text value [] | .horizontalRule | .unsupported => rfl

theorem arePlain_toJsons : (nodes : List Node) → Json.arePlainItems (toJsons nodes) = true
  | [] => rfl
  | node :: rest => by
      rw [toJsons, Json.arePlainItems, isPlain_toJson node, arePlain_toJsons rest]
      rfl

end

theorem mapM_ofJson?_toJsons (nodes : List Node) : (toJsons nodes).mapM ofJson? = some nodes := by
  induction nodes with
  | nil => rfl
  | cons node rest inductionHypothesis =>
      rw [toJsons, List.mapM_cons, inductionHypothesis, ofJson?,
        ofJsonWithin?_toJson node _ false (Nat.lt_succ_self _)]
      rfl

end Node

namespace Document

theorem isPlain_toJson (document : Document) : document.toJson.isPlain = true := by
  simp [toJson, Json.variant, Json.isPlain, Json.arePlainMembers, Node.arePlain_toJsons]

theorem contentOfJson?_toJson (document : Document) :
    contentOfJson? document.toJson = some (some (.array (Node.toJsons document.content))) := by
  simp [contentOfJson?, toJson, Json.variant, Json.Fields.ofJson?, Json.Fields.read?]

/-- A document comes back from its JSON value. -/
theorem ofJson?_toJson (document : Document) : ofJson? document.toJson = some document := by
  have content := Node.mapM_ofJson?_toJsons document.content
  rw [ofJson?, contentOfJson?_toJson]
  simp [Json.optionalList?, content]

/-- The text of a document is read up to the limit on nesting, and then the document comes back. -/
theorem ofText?_write
    (document : Document)
    (layout : Json.Layout) :
    ofText? (String.ofList (document.toJson.write layout)) =
      if document.toJson.depth ≤ depthLimit then some document else none := by
  have hasValue : (Json.array (Node.toJsons document.content)).hasValue = true :=
    Json.hasValue_of_isPlain _ (by rw [Json.isPlain, Node.arePlain_toJsons])
  have depth : document.toJson.depth = (Json.array (Node.toJsons document.content)).depth + 1 := by
    simp [toJson, Json.variant, Json.depth, Json.depthOfMembers]
  rw [ofText?, Json.read?_write document.isPlain_toJson, depth]
  simp only [Option.bind_eq_bind, Option.bind_some, contentOfJson?_toJson, hasValue, true_and,
    ofJson?_toJson]

end Document
end RichText

/-- Every tree comes back from its JSON text in either layout, and so does every rich-text document that
nests no deeper than the limit; beyond it nothing is read. -/
theorem documents_come_back_from_json (layout : Json.Layout) :
    (∀ tree : Markdown.Tree,
      (Json.read? (String.ofList (tree.toJson.write layout))).bind Markdown.Tree.ofJson? = some tree) ∧
    (∀ document : RichText.Document,
      RichText.Document.ofText? (String.ofList (document.toJson.write layout)) =
        if document.toJson.depth ≤ RichText.Document.depthLimit then some document else none) ∧
    ∀ document : RichText.Document,
      RichText.Document.ofText? document.toText =
        if document.toJson.depth ≤ RichText.Document.depthLimit then some document else none := by
  refine ⟨fun tree => ?_, fun document => document.ofText?_write layout, fun document =>
    document.ofText?_write (.indented 0)⟩
  rw [Json.read?_write tree.isPlain_toJson, Option.bind_some, tree.ofJson?_toJson]

end TwinEditor
