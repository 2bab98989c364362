import Dbmail.Lib.CRuntime
import Mathlib.Data.List.Nodup
import Mathlib.Data.Prod.Lex

/-!
Contract: the rows that the parts of a message are stored in.

Owns `store_blob` to `store_mime_object` (`dm_message.c`) over queries that
succeed, the order in which `_mime_retrieve` reads the rows, and the document
order of a MIME tree.

Does not own: the table of blobs, or the text that is rebuilt from the rows.
-/

namespace Dbmail.Delivery

open Dbmail.Lib List

/-! ## MIME trees -/

/-- A part as GMime presents it. A multipart has a boundary and at least one child; a
message part has the headers and the content of its message, and is a leaf when
that cannot be read. -/
inductive MimePart where
  | leaf (head : Bytes) (text : Option Bytes)
  | multipart (head : Bytes) (prologue epilogue : Option Bytes) (first : MimePart)
      (rest : List MimePart)
  | message (head inner : Bytes) (content : MimePart)

inductive MimeObject where
  | message (head : Bytes) (content : MimePart)
  | part (part : MimePart)

/-! ## Storing -/

structure Fragment where
  partDepth : Nat
  isHeader : Bool
  blob : Bytes

/-- A row of `dbmail_partlists` with its blob. -/
structure PartRow extends Fragment where
  partKey : Nat
  partOrder : Nat

/-- The counters of a `DbmailMessage`, and the rows written. -/
structure Storing where
  partKey : Nat := 0
  partDepth : Nat := 0
  partOrder : Nat := 0
  rows : List PartRow := []

namespace Storing

def storeBlob (m : Storing) (buf : Option Bytes) (isHeader : Bool) : Storing :=
  match buf with
  | none => m
  | some blob =>
    let m := if isHeader then { m with partKey := m.partKey + 1, partOrder := 0 } else m
    { m with
      rows := m.rows ++ [⟨⟨m.partDepth, isHeader, blob⟩, m.partKey, m.partOrder⟩]
      partOrder := m.partOrder + 1 }

def storeHead (m : Storing) (head : Bytes) : Storing := m.storeBlob (some head) true

def storeBody (m : Storing) (text : Option Bytes) : Storing :=
  m.storeBlob (text.filter (· ≠ [])) false

end Storing

mutual

/-- `store_mime_object` for a part, with `store_mime_text`, `store_mime_multipart`
and `store_mime_message`. -/
def storeMimePart (skiphead : Bool) : MimePart → Storing → Storing
  | .leaf head text, m => (if skiphead then m else m.storeHead head).storeBody text
  | .multipart head prologue epilogue first rest, m =>
    let m := (if skiphead then m else m.storeHead head).storeBlob prologue false
    let m := storeMimePart false first { m with partDepth := m.partDepth + 1, partOrder := 0 }
    let m := storeParts rest m
    { m with partDepth := m.partDepth - 1, partOrder := m.partOrder + 1 }.storeBlob epilogue false
  | .message head inner content, m =>
    storeMimePart true content ((if skiphead then m else m.storeHead head).storeHead inner)

def storeParts : List MimePart → Storing → Storing
  | [], m => m
  | part :: rest, m => storeParts rest (storeMimePart false part m)

end

def storeMimeObject : MimeObject → Storing → Storing
  | .message head content, m => storeMimePart true content (m.storeHead head)
  | .part part, m => storeMimePart false part m

def dmMessageStore (content : MimeObject) : List PartRow := (storeMimeObject content {}).rows

/-! ## Document order -/

def MimePart.head : MimePart → Bytes
  | .leaf head _ | .multipart head .. | .message head .. => head

mutual

/-- What follows the head of a part that `depth` multiparts enclose. -/
def MimePart.behind (depth : Nat) : MimePart → List Fragment
  | .leaf _ text => (text.filter (· ≠ [])).toList.map (⟨depth, false, ·⟩)
  | .multipart _ prologue epilogue first rest =>
    prologue.toList.map (⟨depth, false, ·⟩) ++ ⟨depth + 1, true, first.head⟩ ::
      first.behind (depth + 1) ++ MimePart.documents (depth + 1) rest ++
        epilogue.toList.map (⟨depth, false, ·⟩)
  | .message _ inner content => ⟨depth, true, inner⟩ :: content.behind depth

def MimePart.documents (depth : Nat) : List MimePart → List Fragment
  | [] => []
  | part :: rest =>
    ⟨depth, true, part.head⟩ :: part.behind depth ++ MimePart.documents depth rest

end

def MimeObject.document : MimeObject → List Fragment
  | .message head content => ⟨0, true, head⟩ :: content.behind 0
  | .part self => ⟨0, true, self.head⟩ :: self.behind 0

def PartRow.place (row : PartRow) : Nat ×ₗ Nat := toLex (row.partKey, row.partOrder)

/-- The ORDER BY of `_mime_retrieve`. -/
def PartRow.ReadBefore (row other : PartRow) : Prop :=
  row.place < other.place ∨ row.place = other.place ∧ other.partDepth ≤ row.partDepth

structure InDocumentOrder (document : List Fragment) (rows : List PartRow) : Prop where
  fragments : rows.map PartRow.toFragment = document
  increasing : (rows.map PartRow.place).Pairwise (· < ·)
  headers : ∀ row ∈ rows, row.isHeader = true → row.partOrder = 0

section Order

variable {document : List Fragment} {rows : List PartRow} (inOrder : InDocumentOrder document rows)

include inOrder

theorem InDocumentOrder.ownKeys : ((rows.filter (·.isHeader)).map PartRow.partKey).Nodup := by
  have places := inOrder.increasing.nodup
  refine (nodup_map_iff_inj_on (places.of_map.filter _)).mpr fun row isRow other isOther same => ?_
  obtain ⟨isRow, rowHead⟩ := mem_filter.mp isRow
  obtain ⟨isOther, otherHead⟩ := mem_filter.mp isOther
  refine inj_on_of_nodup_map places isRow isOther ?_
  rw [PartRow.place, PartRow.place, same, inOrder.headers row isRow rowHead,
    inOrder.headers other isOther otherHead]

theorem InDocumentOrder.read {read : List PartRow} (all : read.Perm rows)
    (ordered : read.Pairwise PartRow.ReadBefore) : read = rows := by
  have atMost {row other : PartRow} (before : row.ReadBefore other) : row.place ≤ other.place :=
    before.elim le_of_lt fun same => same.1.le
  refine all.eq_of_pairwise (fun row other isRow isOther before after => ?_) ordered
    ((pairwise_map.mp inOrder.increasing).imp .inl)
  exact inj_on_of_nodup_map inOrder.increasing.nodup (all.subset isRow) isOther
    (le_antisymm (atMost before) (atMost after))

end Order

/-! ## The counters -/

/-- The next row goes behind all that are there. -/
structure Filed (depth : Nat) (document : List Fragment) (m : Storing) : Prop
    extends InDocumentOrder document m.rows where
  depth_eq : m.partDepth = depth
  below : ∀ row ∈ m.rows, row.place < toLex (m.partKey, m.partOrder)

theorem next_place (key order : Nat) : toLex (key, order) < toLex (key, order + 1) :=
  Prod.Lex.toLex_lt_toLex.mpr (.inr ⟨rfl, Nat.lt_succ_self order⟩)

section Counters

variable {m : Storing} {depth : Nat} {done : List Fragment} (filed : Filed depth done m)

include filed

theorem Filed.push {row : PartRow} (above : ∀ other ∈ m.rows, other.place < row.place)
    (first : row.isHeader = true → row.partOrder = 0) :
    Filed row.partDepth (done ++ [row.toFragment])
      ⟨row.partKey, row.partDepth, row.partOrder + 1, m.rows ++ [row]⟩ := by
  refine ⟨⟨by simp [filed.fragments], ?_, ?_⟩, rfl, ?_⟩
  · simpa [pairwise_append] using ⟨filed.increasing, above⟩
  · simpa [or_imp, forall_and] using ⟨filed.headers, first⟩
  · have next := next_place row.partKey row.partOrder
    simpa [or_imp, forall_and] using ⟨fun other old => (above other old).trans next, next⟩

/-- A head goes behind all rows, also when the order was reset before it. -/
theorem Filed.head (inner order : Nat) (head : Bytes) : Filed inner (done ++ [⟨inner, true, head⟩])
      ({ m with partDepth := inner, partOrder := order }.storeHead head) :=
  @Filed.push m depth done filed ⟨⟨inner, true, head⟩, m.partKey + 1, 0⟩
    (fun other member => (filed.below other member).trans
      (Prod.Lex.toLex_lt_toLex.mpr (.inl (Nat.lt_succ_self _)))) fun _ => rfl

theorem Filed.blob (buf : Option Bytes) :
    Filed depth (done ++ buf.toList.map (⟨depth, false, ·⟩)) (m.storeBlob buf false) := by
  cases buf with
  | none => simpa [Storing.storeBlob] using filed
  | some blob =>
    obtain rfl := filed.depth_eq
    exact @Filed.push m _ done filed ⟨⟨m.partDepth, false, blob⟩, m.partKey, m.partOrder⟩
      filed.below nofun

end Counters

theorem Filed.leave {m : Storing} {depth : Nat} {done : List Fragment}
    (filed : Filed (depth + 1) done m) :
    Filed depth done { m with partDepth := m.partDepth - 1, partOrder := m.partOrder + 1 } :=
  ⟨filed.toInDocumentOrder, by simp [filed.depth_eq],
    fun row member => (filed.below row member).trans (next_place _ _)⟩

theorem storeMimePart_head (part : MimePart) (m : Storing) :
    storeMimePart false part m = storeMimePart true part (m.storeHead part.head) := by
  cases part <;> rfl

mutual

theorem storeMimePart_filed : (part : MimePart) → ∀ {depth : Nat} {m : Storing}
    {done : List Fragment}, Filed depth done m →
      Filed depth (done ++ part.behind depth) (storeMimePart true part m)
  | .leaf _ text, _, _, _, filed => filed.blob (text.filter (· ≠ []))
  | .multipart head prologue epilogue first rest, depth, m, done, filed => by
    have opened := filed.blob prologue
    rw [storeMimePart, if_pos rfl]
    generalize m.storeBlob prologue false = m at opened ⊢
    obtain rfl := opened.depth_eq
    have child := storeMimePart_filed first (opened.head (m.partDepth + 1) 0 first.head)
    rw [← storeMimePart_head] at child
    simpa [MimePart.behind] using (storeParts_filed rest child).leave.blob epilogue
  | .message _ inner content, depth, m, done, filed => by
    obtain rfl := filed.depth_eq
    have read := storeMimePart_filed content (filed.head m.partDepth m.partOrder inner)
    rw [append_assoc] at read
    exact read

theorem storeParts_filed : (parts : List MimePart) → ∀ {depth : Nat} {m : Storing}
    {done : List Fragment}, Filed depth done m →
      Filed depth (done ++ MimePart.documents depth parts) (storeParts parts m)
  | [], _, _, _, filed => by simpa [MimePart.documents, storeParts] using filed
  | part :: rest, depth, m, done, filed => by
    obtain rfl := filed.depth_eq
    have stored := storeParts_filed rest
      (storeMimePart_filed part (filed.head m.partDepth m.partOrder part.head))
    rw [append_assoc, append_assoc] at stored
    rw [storeParts, storeMimePart_head]
    exact stored

end

/-- The rows of a message are written in document order, each with the number of
multiparts around it, and are read in the order they were written in. -/
theorem dmMessageStore_inDocumentOrder (content : MimeObject) :
    InDocumentOrder content.document (dmMessageStore content) ∧
      ((dmMessageStore content).filter (·.isHeader) |>.map PartRow.partKey).Nodup ∧
      ∀ read : List PartRow, read.Perm (dmMessageStore content) →
        read.Pairwise PartRow.ReadBefore → read = dmMessageStore content := by
  have empty : Filed 0 [] {} := ⟨⟨rfl, .nil, nofun⟩, rfl, nofun⟩
  have inOrder : InDocumentOrder content.document (dmMessageStore content) := by
    cases content with
    | message head body => exact (storeMimePart_filed body (empty.head 0 0 head)).toInDocumentOrder
    | part self =>
      rw [dmMessageStore, storeMimeObject, storeMimePart_head]
      exact (storeMimePart_filed self (empty.head 0 0 self.head)).toInDocumentOrder
  exact ⟨inOrder, inOrder.ownKeys, fun read => inOrder.read⟩

end Dbmail.Delivery
