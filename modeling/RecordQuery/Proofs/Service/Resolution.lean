import RecordQuery.Proofs.Url.Folder
import RecordQuery.Service.Address

/-!
# Requests resolved against the root

The root of a web service is a folder, and a request whose path is a single segment goes to a
place in this folder.
-/
namespace RecordQuery.Service

open Url

theorem getLast?_root (s : Settings) :
    (if s.baseUrl.endsWith "/" then s.baseUrl else s.baseUrl ++ "/").toList.getLast? =
      some '/' := by
  split
  · next h =>
    have hsuffix : "/".toList <:+ s.baseUrl.toList := by
      simpa [← String.endsWith_toSlice] using h
    obtain ⟨front, hfront⟩ := hsuffix
    rw [← hfront]
    exact List.getLast?_concat ..
  · rw [String.toList_append]
    exact List.getLast?_concat ..

variable {s : Settings} {root : Url}

theorem root_segments (h : root? s = some root) (hw : root.IsWeb) :
    ∃ pieces, root.location = .segments pieces :=
  hw.exists_segments h

theorem root_folders (h : root? s = some root) (hw : root.IsWeb) (hq : root.query = none)
    (hf : root.fragment = none) : ∃ folders, root.location = .segments (folders ++ [[]]) :=
  hw.exists_folders h (getLast?_root s) hq hf

/-- The root of a service on the same machine. -/
def loopback : Url :=
  ⟨"http".toList, some ⟨[], "[::1]".toList, none⟩, .segments ["data".toList, []], none, none⟩

theorem root?_loopback : root? { baseUrl := "http://[::1]/data" } = some loopback := by
  decide +kernel

theorem splitScheme?_of_isPrefix {text : List Char}
    (h : "http://".toList <+: text ∨ "https://".toList <+: text) : splitScheme? text ≠ none := by
  rcases h with ⟨rest, rfl⟩ | ⟨rest, rfl⟩ <;> simp [splitScheme?, isSchemeChar]

/-- A reference of one segment is no complete link. -/
theorem isComplete_segment {path : String} (h : IsSegment path.toList) :
    isComplete path = false := by
  by_contra hcomplete
  rw [Bool.not_eq_false, isComplete, Bool.or_eq_true, String.startsWith_string_iff,
    String.startsWith_string_iff] at hcomplete
  refine splitScheme?_of_isPrefix ?_ h.schemeless
  rcases hcomplete with ⟨rest, hrest⟩ | ⟨rest, hrest⟩
  · left
    exact ⟨unbroken rest, by rw [← hrest, unbroken_append]; rfl⟩
  · right
    exact ⟨unbroken rest, by rw [← hrest, unbroken_append]; rfl⟩

theorem resolve?_segment (hw : root.IsWeb) {pieces : List (List Char)}
    (hl : root.location = .segments pieces) {r : Request} (h : IsSegment r.path.toList) :
    resolve? root r = some (addOptions r.query ⟨root.scheme, root.authority,
      .segments (pieces.dropLast ++ [encode pathSet (unbroken r.path.toList)]), none, none⟩) := by
  unfold resolve? join?
  rw [if_neg (by simp [isComplete_segment h]), read?_segment hw hl h]
  rfl

end RecordQuery.Service
