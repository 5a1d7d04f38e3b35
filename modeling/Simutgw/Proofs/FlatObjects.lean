import Simutgw.AStockQuotationHelper

/-! The JSON library is a parameter of what reads messages. Of it only flat objects of plain
texts matter, and a parser of these stands in for it where a message is followed through. -/

namespace Simutgw.Proofs.FlatObjects
open AStockQuotationHelper

/-- Without a quote, a backslash or a control character a text is written as it is. -/
def Plain (text : String) : Prop :=
  ∀ char ∈ text.toList, char ≠ '"' ∧ char ≠ '\\' ∧ ' ' ≤ char

instance decidablePlain (text : String) : Decidable (Plain text) := List.decidableBAll _ text.toList

/-- What the library is relied on for. -/
def ParsesFlat (parse : String → Document) : Prop :=
  ∀ members, members ≠ [] → (∀ member ∈ members, Plain member.1 ∧ Plain member.2) →
    parse (written members) = .object (members.map fun member => (member.1, .text member.2))

/-! A parser of just these objects. The quotes cut a message into the texts and what stands
between them. -/

def flatMembers : List (List Char) → Option (List (String × JsonValue))
  | [name, [':'], value, ['}']] => some [(String.ofList name, .text (String.ofList value))]
  | name :: [':'] :: value :: [','] :: rest =>
    (flatMembers rest).map ((String.ofList name, .text (String.ofList value)) :: ·)
  | _ => none

def flatDocument (message : String) : Document :=
  match message.toList.splitOn '"' with
  | ['{'] :: rest => ((flatMembers rest).map Document.object).getD .parseError
  | _ => .parseError

def flatPieces : List (String × String) → List (List Char)
  | [] => [['}']]
  | [member] => [member.1.toList, [':'], member.2.toList, ['}']]
  | member :: next :: rest => member.1.toList :: [':'] :: member.2.toList :: [','] :: flatPieces (next :: rest)

theorem flatMembers_pieces {members : List (String × String)} (some : members ≠ []) :
    flatMembers (flatPieces members) = Option.some (members.map fun member => (member.1, .text member.2)) := by
  induction members with
  | nil => exact absurd rfl some
  | cons member rest ih =>
    cases rest with
    | nil => simp [flatPieces, flatMembers]
    | cons next rest => simp [flatPieces, flatMembers, ih]

theorem body_pieces {members : List (String × String)} (some : members ≠ []) :
    (",".intercalate (members.map quoted) ++ "\x7d").toList = '"' :: ['"'].intercalate (flatPieces members) := by
  induction members with
  | nil => exact absurd rfl some
  | cons member rest ih =>
    cases rest with
    | nil => simp [quoted, flatPieces]
    | cons next rest =>
      have behind := ih (List.cons_ne_nil _ _)
      have filled : flatPieces (next :: rest) ≠ [] := by
        cases rest <;> simp [flatPieces]
      rw [List.map_cons, String.intercalate_cons_of_ne_nil (by simp), flatPieces,
        List.intercalate_cons_cons, List.intercalate_cons_cons, List.intercalate_cons_cons,
        List.intercalate_cons_of_ne_nil filled, String.append_assoc, String.toList_append, behind]
      simp [quoted]

theorem written_pieces {members : List (String × String)} (some : members ≠ []) :
    (written members).toList = ['"'].intercalate (['{'] :: flatPieces members) := by
  have filled : flatPieces members ≠ [] := by
    cases members with
    | nil => exact absurd rfl some
    | cons member rest => cases rest <;> simp [flatPieces]
  rw [written, String.append_assoc, String.toList_append, body_pieces some, List.intercalate_cons_of_ne_nil filled]
  rfl

theorem flatPieces_free {members : List (String × String)}
    (plain : ∀ member ∈ members, Plain member.1 ∧ Plain member.2) : ∀ piece ∈ flatPieces members, '"' ∉ piece := by
  have free {text : String} (plain : Plain text) : '"' ∉ text.toList := fun member => (plain '"' member).1 rfl
  induction members with
  | nil => simp [flatPieces]
  | cons member rest ih =>
    obtain ⟨name, value⟩ := plain member List.mem_cons_self
    cases rest with
    | nil => simp [flatPieces, free name, free value]
    | cons next rest =>
      have behind := ih fun member inside => plain member (List.mem_cons_of_mem _ inside)
      simp only [flatPieces, List.forall_mem_cons]
      exact ⟨free name, by decide, free value, by decide, behind⟩

theorem flatDocument_flat : ParsesFlat flatDocument := by
  intro members some plain
  have cut : (written members).toList.splitOn '"' = ['{'] :: flatPieces members := by
    rw [written_pieces some]
    apply List.splitOn_intercalate
    · exact List.forall_mem_cons.mpr ⟨by decide, flatPieces_free plain⟩
    · exact List.cons_ne_nil _ _
  rw [flatDocument, cut]
  simp [flatMembers_pieces some]

end Simutgw.Proofs.FlatObjects
