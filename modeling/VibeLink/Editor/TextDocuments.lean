import VibeLink.Editor.Documents
import VibeLink.Binary.Unicode
import VibeLink.Relational.Outcome

/-! A text document on the disk, as it is opened and saved (`app/fsops.rs`); nobody else is at work on the file. -/

namespace VibeLink.Editor

open Binary (utf8 ofUtf8)

abbrev Bytes := List UInt8

structure StoredFile where
  bytes : Bytes
  modifiedAtNs : String
  deriving DecidableEq

def textDocumentLimit : Nat := 8 * 1024 * 1024

def byteOrderMark : Bytes := [0xef, 0xbb, 0xbf]

/-- How many of the lines end in LF and in CRLF, beyond those already counted. -/
def countLineEndings (lf crlf : Nat) : Bytes → Except String (Nat × Nat)
  | [] => .ok (lf, crlf)
  | byte :: rest =>
    if byte = 13 then
      match rest with
      | 10 :: rest => countLineEndings lf (crlf + 1) rest
      | _ => .error "text document contains unsupported lone CR line endings"
    else if byte = 10 then countLineEndings (lf + 1) crlf rest
    else countLineEndings lf crlf rest

/-- `replace("\r\n", "\n")` -/
def crlfToLf : List Char → List Char
  | '\r' :: '\n' :: rest => '\n' :: crlfToLf rest
  | c :: rest => c :: crlfToLf rest
  | [] => []

/-- `replace('\n', "\r\n")` -/
def lfToCrlf (text : List Char) : List Char := text.flatMap fun c => if c = '\n' then ['\r', '\n'] else [c]

def normalizeDiskLineEndings (content : List Char) : Except String (List Char × LineEnding) := do
  let (lf, crlf) ← countLineEndings 0 0 (utf8 content)
  if 0 < lf ∧ 0 < crlf then .error "text document contains mixed LF and CRLF line endings"
  else if 0 < crlf then .ok (crlfToLf content, .crlf)
  else .ok (content, .lf)

def normalizeEditorContent (content : List Char) : Except String (List Char) :=
  if '\x00' ∈ content then .error "editor content contains binary NUL bytes"
  else (normalizeDiskLineEndings content).map Prod.fst

/-- `decode_text_document` behind the byte order mark. -/
def decodePayload (payload : Bytes) (encoding : Encoding) : Except String (List Char × Encoding × LineEnding) :=
  if 0 ∈ payload then .error "text document contains binary NUL bytes"
  else match ofUtf8 payload with
    | none => .error "text document is not strict UTF-8"
    | some decoded => do
      let (content, lineEnding) ← normalizeDiskLineEndings decoded
      return (content, encoding, lineEnding)

def decodeTextDocument (bytes : Bytes) : Except String (List Char × Encoding × LineEnding) :=
  if byteOrderMark <+: bytes then decodePayload (bytes.drop 3) .utf8Bom else decodePayload bytes .utf8

def encodeTextDocument (normalized : List Char) (encoding : Encoding) (lineEnding : LineEnding) :
    Except String Bytes :=
  if '\r' ∈ normalized then .error "editor content must use LF internally"
  else
    let encoded := match lineEnding with
      | .lf => normalized
      | .crlf => lfToCrlf normalized
    .ok ((if encoding = .utf8Bom then byteOrderMark else []) ++ utf8 encoded)

section Files

variable (digest : Bytes → String)

def revisionFromBytes (bytes : Bytes) (modifiedAtNs : String) : Revision := ⟨digest bytes, bytes.length, modifiedAtNs⟩

def readRevisionBytes (file : StoredFile) : Except String (Bytes × Revision) :=
  if textDocumentLimit < file.bytes.length then .error "text documents are limited to 8 MiB"
  else .ok (file.bytes, revisionFromBytes digest file.bytes file.modifiedAtNs)

def openTextDocument (file : StoredFile) : Except String NativeTextDocument := do
  let (bytes, revision) ← readRevisionBytes digest file
  let (content, encoding, lineEnding) ← decodeTextDocument bytes
  return ⟨.ofList content, revision, encoding, lineEnding⟩

def revisionIfFile : Option StoredFile → Except String (Option Revision)
  | none => .ok none
  | some file => (readRevisionBytes digest file).map fun read => some read.2

variable (file : Option StoredFile) (expectedRevision : Option Revision) (allowCreate : Bool) (modifiedAtNs : String)

/-- What comes of the file, and the revision of what has been saved or of what is in the way. -/
def conditionalWriteTextDocument (bytes : Bytes) :
    Except String (Option StoredFile × (Option Revision ⊕ Revision)) := do
  let initial ← revisionIfFile digest file
  if (!allowCreate && initial.isNone) || initial != expectedRevision then return (file, .inl initial)
  else
    let saved : StoredFile := ⟨bytes, modifiedAtNs⟩
    let (_, revision) ← readRevisionBytes digest saved
    return (some saved, .inr revision)

def saveTextDocument (content : String) (encoding : Encoding) (lineEnding : LineEnding) :
    Except String (Option StoredFile × SaveResult) := do
  let normalized ← normalizeEditorContent content.toList
  let bytes ← encodeTextDocument normalized encoding lineEnding
  if textDocumentLimit < bytes.length then .error "text documents are limited to 8 MiB"
  else
    let (file, outcome) ← conditionalWriteTextDocument digest file expectedRevision allowCreate modifiedAtNs bytes
    return match outcome with
      | .inr revision => (file, .saved ⟨.ofList normalized, revision, encoding, lineEnding⟩)
      | .inl currentRevision => (file, .conflict currentRevision)

end Files

/-! ### Line endings -/

/-- A text whose CRs all begin a line ending, with the number of its LF and its CRLF line endings. -/
inductive Lines : List Char → Nat → Nat → Prop
  | nil : Lines [] 0 0
  | lf {text : List Char} {lf crlf : Nat} : Lines text lf crlf → Lines ('\n' :: text) (lf + 1) crlf
  | crlf {text : List Char} {lf crlf : Nat} : Lines text lf crlf → Lines ('\r' :: '\n' :: text) lf (crlf + 1)
  | char {c : Char} {text : List Char} {lf crlf : Nat} : c ≠ '\r' → c ≠ '\n' → Lines text lf crlf →
      Lines (c :: text) lf crlf

theorem countLineEndings_cons {byte : UInt8} (cr : byte ≠ 13) (n m : Nat) (rest : Bytes) :
    countLineEndings n m (byte :: rest) =
      if byte = 10 then countLineEndings (n + 1) m rest else countLineEndings n m rest := by
  conv_lhs => unfold countLineEndings
  exact if_neg cr

theorem countLineEndings_crlf (n m : Nat) (rest : Bytes) :
    countLineEndings n m (13 :: 10 :: rest) = countLineEndings n (m + 1) rest := by
  conv_lhs => unfold countLineEndings
  exact if_pos rfl

theorem countLineEndings_cr {rest : Bytes} (lone : rest.head? ≠ some 10) (n m : Nat) :
    countLineEndings n m (13 :: rest) = .error "text document contains unsupported lone CR line endings" := by
  conv_lhs => unfold countLineEndings
  rw [if_pos rfl]
  split
  · exact absurd rfl lone
  · rfl

theorem countLineEndings_append {bytes : Bytes} (free : ∀ byte ∈ bytes, byte ≠ 13 ∧ byte ≠ 10) (lf crlf : Nat)
    (rest : Bytes) : countLineEndings lf crlf (bytes ++ rest) = countLineEndings lf crlf rest := by
  induction bytes with
  | nil => rfl
  | cons byte bytes ih =>
    have ⟨cr, lf⟩ := free byte List.mem_cons_self
    rw [List.cons_append, countLineEndings_cons cr, if_neg lf, ih fun byte member => free byte (.tail _ member)]

theorem countLineEndings_char {c : Char} (cr : c ≠ '\r') (lf : c ≠ '\n') (n m : Nat) (text : List Char) :
    countLineEndings n m (utf8 (c :: text)) = countLineEndings n m (utf8 text) := by
  refine countLineEndings_append (fun byte member => ⟨fun same => ?_, fun same => ?_⟩) n m _
  · subst same
    exact cr ((Binary.mem_encodeChar (c := '\r') (by decide)).mp member).symm
  · subst same
    exact lf ((Binary.mem_encodeChar (c := '\n') (by decide)).mp member).symm

theorem countLineEndings_eq_ok {text : List Char} {n m lf crlf : Nat} :
    countLineEndings n m (utf8 text) = .ok (lf, crlf) ↔ ∃ l c, Lines text l c ∧ lf = n + l ∧ crlf = m + c := by
  constructor
  · fun_induction crlfToLf text generalizing n m with
    | case1 rest ih =>
      intro counted
      obtain ⟨l, c, lines, rfl, rfl⟩ := ih ((countLineEndings_crlf n m (utf8 rest)).symm.trans counted)
      exact ⟨l, c + 1, lines.crlf, rfl, by omega⟩
    | case2 c rest other ih =>
      intro counted
      by_cases cr : c = '\r'
      · subst cr
        have lone : (utf8 rest).head? ≠ some 10 := fun head =>
          have ⟨more, same⟩ := Binary.head_utf8 (c := '\n') (by decide) head
          other more rfl same
        cases (countLineEndings_cr lone n m).symm.trans counted
      by_cases lf : c = '\n'
      · subst lf
        obtain ⟨l, c, lines, rfl, rfl⟩ := ih ((countLineEndings_cons (by decide) n m (utf8 rest)).symm.trans counted)
        exact ⟨l + 1, c, lines.lf, by omega, rfl⟩
      · obtain ⟨l, c, lines, rfl, rfl⟩ := ih ((countLineEndings_char cr lf n m rest).symm.trans counted)
        exact ⟨l, c, lines.char cr lf, rfl, rfl⟩
    | case3 =>
      intro counted
      cases counted
      exact ⟨0, 0, .nil, rfl, rfl⟩
  · rintro ⟨l, c, lines, rfl, rfl⟩
    induction lines generalizing n m with
    | nil => rfl
    | lf _ ih =>
      rw [Nat.add_comm _ 1, ← Nat.add_assoc, ← ih]
      exact countLineEndings_cons (by decide) n m _
    | crlf _ ih =>
      rw [Nat.add_comm _ 1, ← Nat.add_assoc, ← ih]
      exact countLineEndings_crlf n m _
    | char cr lf _ ih => rw [countLineEndings_char cr lf, ih]

def LineEnding.write (text : List Char) : LineEnding → List Char
  | .lf => text
  | .crlf => lfToCrlf text

@[simp] theorem lfToCrlf_lf (text : List Char) : lfToCrlf ('\n' :: text) = '\r' :: '\n' :: lfToCrlf text := rfl

theorem lfToCrlf_char {c : Char} (lf : c ≠ '\n') (text : List Char) : lfToCrlf (c :: text) = c :: lfToCrlf text := by
  rw [lfToCrlf, List.flatMap_cons, if_neg lf]
  rfl

theorem crlfToLf_char {c : Char} (cr : c ≠ '\r') (text : List Char) : crlfToLf (c :: text) = c :: crlfToLf text :=
  crlfToLf.eq_2 c text fun _ same => absurd same cr

theorem Lines.cr_not_mem {text : List Char} {lf crlf : Nat} (lines : Lines text lf crlf) : '\r' ∉ crlfToLf text := by
  induction lines with
  | nil => exact List.not_mem_nil
  | lf _ ih => simpa [crlfToLf_char (c := '\n') (by decide)] using ih
  | crlf _ ih => simpa [crlfToLf] using ih
  | char cr _ _ ih => simpa [crlfToLf_char cr] using ⟨cr.symm, ih⟩

theorem Lines.eq_write {text : List Char} {crlf : Nat} (lines : Lines text 0 crlf) : lfToCrlf (crlfToLf text) = text := by
  generalize none : 0 = lf at lines
  induction lines with
  | nil => rfl
  | lf => cases none
  | crlf _ ih => rw [crlfToLf, lfToCrlf_lf, ih none]
  | char cr lf _ ih => rw [crlfToLf_char cr, lfToCrlf_char lf, ih none]

theorem Lines.crlfToLf_eq {text : List Char} {lf : Nat} (lines : Lines text lf 0) : crlfToLf text = text := by
  generalize none : 0 = crlf at lines
  induction lines with
  | nil => rfl
  | lf _ ih => rw [crlfToLf_char (by decide), ih none]
  | crlf => cases none
  | char cr _ _ ih => rw [crlfToLf_char cr, ih none]

theorem Lines.mem_lf {text : List Char} {lf crlf : Nat} (lines : Lines text lf crlf) (some : 0 < lf + crlf) :
    '\n' ∈ crlfToLf text := by
  induction lines with
  | nil => cases some
  | lf => simp [crlfToLf_char (c := '\n') (by decide)]
  | crlf => simp [crlfToLf]
  | char cr _ _ ih => simp [crlfToLf_char cr, ih some]

theorem lines_of_cr_not_mem {text : List Char} (cr : '\r' ∉ text) : Lines text (text.count '\n') 0 := by
  induction text with
  | nil => exact .nil
  | cons c text ih =>
    have first := List.ne_of_not_mem_cons cr
    have rest := List.not_mem_of_not_mem_cons cr
    by_cases lf : c = '\n'
    · subst lf
      rw [List.count_cons_self]
      exact (ih rest).lf
    · rw [List.count_cons_of_ne lf]
      exact (ih rest).char first.symm lf

theorem lines_lfToCrlf {text : List Char} (cr : '\r' ∉ text) : Lines (lfToCrlf text) 0 (text.count '\n') := by
  induction text with
  | nil => exact .nil
  | cons c text ih =>
    have first := List.ne_of_not_mem_cons cr
    have rest := List.not_mem_of_not_mem_cons cr
    by_cases lf : c = '\n'
    · subst lf
      rw [List.count_cons_self]
      exact (ih rest).crlf
    · rw [lfToCrlf_char lf, List.count_cons_of_ne lf]
      exact (ih rest).char first.symm lf

theorem crlfToLf_lfToCrlf {text : List Char} (cr : '\r' ∉ text) : crlfToLf (lfToCrlf text) = text := by
  induction text with
  | nil => rfl
  | cons c text ih =>
    have first := List.ne_of_not_mem_cons cr
    have rest := List.not_mem_of_not_mem_cons cr
    by_cases lf : c = '\n'
    · rw [lf, lfToCrlf_lf, crlfToLf, ih rest]
    · rw [lfToCrlf_char lf, crlfToLf_char first.symm, ih rest]

theorem normalizeDiskLineEndings_eq_ok {content text : List Char} {ending : LineEnding} :
    normalizeDiskLineEndings content = .ok (text, ending) ↔
      '\r' ∉ text ∧ content = ending.write text ∧ (ending = .crlf → '\n' ∈ text) := by
  constructor
  · intro accepted
    have ⟨⟨lf, crlf⟩, counted, chosen⟩ := Relational.bind_eq_ok.mp accepted
    obtain ⟨lf, crlf, lines, rfl, rfl⟩ := countLineEndings_eq_ok.mp counted
    simp only [Nat.zero_add] at chosen
    split at chosen
    · cases chosen
    rename_i one
    split at chosen
    · rename_i some
      cases chosen
      obtain rfl : lf = 0 := by omega
      exact ⟨lines.cr_not_mem, lines.eq_write.symm, fun _ => lines.mem_lf (by omega)⟩
    · rename_i none
      cases chosen
      obtain rfl : crlf = 0 := by omega
      exact ⟨lines.crlfToLf_eq ▸ lines.cr_not_mem, rfl, by simp⟩
  · rintro ⟨cr, rfl, shows⟩
    cases ending with
    | lf =>
      have counted := (countLineEndings_eq_ok (n := 0) (m := 0)).mpr ⟨_, _, lines_of_cr_not_mem cr, rfl, rfl⟩
      exact Relational.bind_eq_ok.mpr ⟨_, counted, by simp [LineEnding.write]⟩
    | crlf =>
      have counted := (countLineEndings_eq_ok (n := 0) (m := 0)).mpr ⟨_, _, lines_lfToCrlf cr, rfl, rfl⟩
      have some := List.count_pos_iff.mpr (shows rfl)
      exact Relational.bind_eq_ok.mpr ⟨_, counted, by simp [LineEnding.write, some, crlfToLf_lfToCrlf cr]⟩

/-! ### Documents -/

def Encoding.mark : Encoding → Bytes
  | .utf8 => []
  | .utf8Bom => byteOrderMark

theorem mem_write {c : Char} (cr : c ≠ '\r') (ending : LineEnding) (text : List Char) :
    c ∈ ending.write text ↔ c ∈ text := by
  cases ending with
  | lf => exact Iff.rfl
  | crlf =>
    rw [LineEnding.write, lfToCrlf, List.mem_flatMap]
    constructor
    · intro ⟨d, member, among⟩
      split at among
      · rename_i lf
        simp only [List.mem_cons, cr, List.not_mem_nil, or_false, false_or] at among
        exact among.trans lf.symm ▸ member
      · exact List.mem_singleton.mp among ▸ member
    · intro member
      refine ⟨c, member, ?_⟩
      split
      · rename_i lf
        simp [lf]
      · exact List.mem_singleton_self c

theorem head?_write {c : Char} (cr : c ≠ '\r') (lf : c ≠ '\n') (ending : LineEnding) (text : List Char) :
    (ending.write text).head? = some c ↔ text.head? = some c := by
  cases ending with
  | lf => exact Iff.rfl
  | crlf =>
    cases text with
    | nil => exact Iff.rfl
    | cons d text =>
      by_cases is : d = '\n'
      · subst is
        simp [LineEnding.write, cr.symm, lf.symm]
      · simp [LineEnding.write, lfToCrlf_char is]

theorem byteOrderMark_isPrefixOf (text : List Char) :
    byteOrderMark <+: utf8 text ↔ text.head? = some '\uFEFF' := by
  have mark : byteOrderMark = utf8 ['\uFEFF'] := by decide
  rw [mark, Binary.utf8_prefix]
  cases text <;> simp [eq_comm]

theorem nul_mem_utf8 (ending : LineEnding) (text : List Char) : 0 ∈ utf8 (ending.write text) ↔ '\x00' ∈ text :=
  (Binary.mem_utf8 (c := '\x00') (by decide) _).trans (mem_write (by decide) ending text)

theorem decodePayload_eq_ok {payload : Bytes} {text : List Char} {encoding given : Encoding} {ending : LineEnding} :
    decodePayload payload encoding = .ok (text, given, ending) ↔
      given = encoding ∧ payload = utf8 (ending.write text) ∧ '\x00' ∉ text ∧ '\r' ∉ text ∧
        (ending = .crlf → '\n' ∈ text) := by
  constructor
  · intro accepted
    unfold decodePayload at accepted
    split at accepted
    · cases accepted
    rename_i nul
    split at accepted
    · cases accepted
    rename_i decoded valid
    have ⟨⟨content, lineEnding⟩, normalized, chosen⟩ := Relational.bind_eq_ok.mp accepted
    cases chosen
    obtain ⟨cr, rfl, shows⟩ := normalizeDiskLineEndings_eq_ok.mp normalized
    have encoded := Binary.ofUtf8_eq_some.mp valid
    rw [← encoded, nul_mem_utf8] at nul
    exact ⟨rfl, encoded.symm, nul, cr, shows⟩
  · rintro ⟨rfl, rfl, nul, cr, shows⟩
    have normalized := normalizeDiskLineEndings_eq_ok.mpr ⟨cr, rfl, shows⟩
    rw [decodePayload, if_neg (mt (nul_mem_utf8 ending text).mp nul), Binary.ofUtf8_utf8]
    exact Relational.bind_eq_ok.mpr ⟨_, normalized, rfl⟩

theorem decodeTextDocument_eq_ok {bytes : Bytes} {text : List Char} {encoding : Encoding} {ending : LineEnding} :
    decodeTextDocument bytes = .ok (text, encoding, ending) ↔
      bytes = encoding.mark ++ utf8 (ending.write text) ∧ (encoding = .utf8 → text.head? ≠ some '\uFEFF') ∧
        '\x00' ∉ text ∧ '\r' ∉ text ∧ (ending = .crlf → '\n' ∈ text) := by
  unfold decodeTextDocument
  split
  · rename_i marked
    obtain ⟨payload, rfl⟩ := marked
    have dropped : (byteOrderMark ++ payload).drop 3 = payload := rfl
    rw [dropped, decodePayload_eq_ok]
    constructor
    · rintro ⟨rfl, rfl, proper⟩
      exact ⟨rfl, by simp, proper⟩
    · intro ⟨same, unmarked, proper⟩
      cases encoding with
      | utf8Bom => exact ⟨rfl, List.append_cancel_left same, proper⟩
      | utf8 =>
        have marked : byteOrderMark <+: utf8 (ending.write text) := ⟨payload, same⟩
        rw [byteOrderMark_isPrefixOf, head?_write (by decide) (by decide)] at marked
        exact absurd marked (unmarked rfl)
  · rename_i unmarked
    rw [decodePayload_eq_ok]
    constructor
    · rintro ⟨rfl, rfl, proper⟩
      rw [byteOrderMark_isPrefixOf, head?_write (by decide) (by decide)] at unmarked
      exact ⟨rfl, fun _ => unmarked, proper⟩
    · intro ⟨same, _, proper⟩
      cases encoding with
      | utf8Bom => exact absurd ⟨_, same.symm⟩ unmarked
      | utf8 => exact ⟨rfl, same, proper⟩

theorem encodeTextDocument_eq_ok {bytes : Bytes} {text : List Char} {encoding : Encoding} {ending : LineEnding} :
    encodeTextDocument text encoding ending = .ok bytes ↔
      '\r' ∉ text ∧ encoding.mark ++ utf8 (ending.write text) = bytes := by
  unfold encodeTextDocument
  split
  · rename_i cr
    simp [cr]
  · rename_i cr
    cases encoding <;> cases ending <;> simp [cr, Encoding.mark, LineEnding.write]

theorem normalizeEditorContent_eq_ok {content text : List Char} : normalizeEditorContent content = .ok text ↔
    ∃ ending : LineEnding, '\x00' ∉ text ∧ '\r' ∉ text ∧ content = ending.write text ∧
      (ending = .crlf → '\n' ∈ text) := by
  constructor
  · intro accepted
    unfold normalizeEditorContent at accepted
    split at accepted
    · cases accepted
    rename_i nul
    have ⟨⟨_, ending⟩, normalized, same⟩ := Relational.map_eq_ok.mp accepted
    cases same
    obtain ⟨cr, rfl, shows⟩ := normalizeDiskLineEndings_eq_ok.mp normalized
    rw [mem_write (by decide)] at nul
    exact ⟨ending, nul, cr, rfl, shows⟩
  · rintro ⟨ending, nul, cr, rfl, shows⟩
    have normalized := normalizeDiskLineEndings_eq_ok.mpr ⟨cr, rfl, shows⟩
    rw [normalizeEditorContent, if_neg (mt (mem_write (by decide) ending text).mp nul)]
    exact Relational.map_eq_ok.mpr ⟨_, normalized, rfl⟩

theorem crlfToLf_write {text : List Char} (cr : '\r' ∉ text) (ending : LineEnding) :
    crlfToLf (ending.write text) = text := by
  cases ending with
  | lf => exact (lines_of_cr_not_mem cr).crlfToLf_eq
  | crlf => exact crlfToLf_lfToCrlf cr

theorem write_of_lf_not_mem {text : List Char} (none : '\n' ∉ text) (ending : LineEnding) : ending.write text = text := by
  cases ending with
  | lf => rfl
  | crlf =>
    rw [LineEnding.write]
    induction text with
    | nil => rfl
    | cons c text ih =>
      rw [lfToCrlf_char (List.ne_of_not_mem_cons none).symm, ih (List.not_mem_of_not_mem_cons none)]

def LineEnding.shown (text : List Char) (ending : LineEnding) : LineEnding := if '\n' ∈ text then ending else .lf

theorem LineEnding.write_shown (text : List Char) (ending : LineEnding) :
    (ending.shown text).write text = ending.write text := by
  unfold shown
  split
  · rfl
  · rename_i none
    exact (write_of_lf_not_mem none ending).symm

theorem LineEnding.shown_eq_crlf (text : List Char) (ending : LineEnding) (crlf : ending.shown text = .crlf) :
    '\n' ∈ text := by
  by_contra none
  simp [shown, none] at crlf

section Saving

variable {digest : Bytes → String} {file stored : StoredFile} {before : Option StoredFile} {document : NativeTextDocument}

theorem openTextDocument_eq_ok : openTextDocument digest file = .ok document ↔
    file.bytes.length ≤ textDocumentLimit ∧ document.revision = revisionFromBytes digest file.bytes file.modifiedAtNs ∧
      decodeTextDocument file.bytes = .ok (document.content.toList, document.encoding, document.lineEnding) := by
  constructor
  · intro opened
    have ⟨_, read, decoding⟩ := Relational.bind_eq_ok.mp opened
    unfold readRevisionBytes at read
    split at read
    · cases read
    rename_i small
    cases read
    have ⟨_, decoded, same⟩ := Relational.bind_eq_ok.mp decoding
    cases same
    exact ⟨Nat.le_of_not_lt small, rfl, by rw [String.toList_ofList]; exact decoded⟩
  · intro ⟨small, revision, decoded⟩
    have read : readRevisionBytes digest file = .ok (file.bytes, document.revision) := by
      rw [readRevisionBytes, if_neg (Nat.not_lt_of_le small), revision]
    refine Relational.bind_eq_ok.mpr ⟨_, read, Relational.bind_eq_ok.mpr ⟨_, decoded, ?_⟩⟩
    dsimp only
    rw [String.ofList_toList]
    rfl

theorem saved_eq_ok {expected : Option Revision} {allowCreate : Bool} {modified : String} {content : String}
    {encoding : Encoding} {ending : LineEnding} {after : Option StoredFile}
    (saved : saveTextDocument digest before expected allowCreate modified content encoding ending =
      .ok (after, .saved document)) :
    ∃ text bytes, normalizeEditorContent content.toList = .ok text ∧ encodeTextDocument text encoding ending = .ok bytes ∧
      bytes.length ≤ textDocumentLimit ∧ after = some ⟨bytes, modified⟩ := by
  have ⟨text, normalized, rest⟩ := Relational.bind_eq_ok.mp saved
  have ⟨bytes, encoded, rest⟩ := Relational.bind_eq_ok.mp rest
  split at rest
  · cases rest
  rename_i small
  have ⟨⟨written, outcome⟩, write, answer⟩ := Relational.bind_eq_ok.mp rest
  have ⟨initial, _, rest⟩ := Relational.bind_eq_ok.mp write
  split at rest
  · cases rest
    cases answer
  · have ⟨_, _, same⟩ := Relational.bind_eq_ok.mp rest
    cases same
    cases answer
    exact ⟨text, bytes, normalized, encoded, Nat.le_of_not_lt small, rfl⟩

theorem conditionalWriteTextDocument_eq_ok {allowCreate : Bool} {modified : String} {bytes : Bytes}
    (current : file.bytes.length ≤ textDocumentLimit) (small : bytes.length ≤ textDocumentLimit) :
    conditionalWriteTextDocument digest (some file) (some (revisionFromBytes digest file.bytes file.modifiedAtNs))
      allowCreate modified bytes = .ok (some ⟨bytes, modified⟩, .inr (revisionFromBytes digest bytes modified)) := by
  have initial : revisionIfFile digest (some file) =
      .ok (some (revisionFromBytes digest file.bytes file.modifiedAtNs)) := by
    rw [revisionIfFile, readRevisionBytes, if_neg (Nat.not_lt_of_le current)]
    rfl
  have read : readRevisionBytes digest ⟨bytes, modified⟩ = .ok (bytes, revisionFromBytes digest bytes modified) :=
    if_neg (Nat.not_lt_of_le small)
  refine Relational.bind_eq_ok.mpr ⟨_, initial, ?_⟩
  rw [if_neg (by simp)]
  exact Relational.bind_eq_ok.mpr ⟨_, read, rfl⟩

theorem save_of_open (opened : openTextDocument digest file = .ok document) (allowCreate : Bool) (modified : String) :
    saveTextDocument digest (some file) (some document.revision) allowCreate modified document.content document.encoding
        document.lineEnding = .ok (some ⟨file.bytes, modified⟩,
      .saved { document with revision := revisionFromBytes digest file.bytes modified }) := by
  have ⟨small, revision, decoded⟩ := openTextDocument_eq_ok.mp opened
  have ⟨bytes, _, nul, cr, _⟩ := decodeTextDocument_eq_ok.mp decoded
  have normalized : normalizeEditorContent document.content.toList = .ok document.content.toList :=
    normalizeEditorContent_eq_ok.mpr ⟨.lf, nul, cr, rfl, by simp⟩
  have encoded := encodeTextDocument_eq_ok.mpr ⟨cr, bytes.symm⟩
  refine Relational.bind_eq_ok.mpr ⟨_, normalized, Relational.bind_eq_ok.mpr ⟨_, encoded, ?_⟩⟩
  rw [if_neg (Nat.not_lt_of_le small), revision]
  refine Relational.bind_eq_ok.mpr ⟨_, conditionalWriteTextDocument_eq_ok small small, ?_⟩
  dsimp only
  rw [String.ofList_toList]
  rfl

theorem open_of_save {expected : Option Revision} {allowCreate : Bool} {modified : String} {content : String}
    {encoding : Encoding} {ending : LineEnding} {after : Option StoredFile}
    (saved : saveTextDocument digest before expected allowCreate modified content encoding ending =
      .ok (after, .saved document))
    (unmarked : encoding = .utf8 → content.toList.head? ≠ some '\uFEFF') :
    ∃ file reopened, after = some file ∧ openTextDocument digest file = .ok reopened ∧
      reopened.content.toList = crlfToLf content.toList ∧ reopened.encoding = encoding ∧
      ('\n' ∈ content.toList → reopened.lineEnding = ending) := by
  obtain ⟨text, bytes, normalized, encoded, small, rfl⟩ := saved_eq_ok saved
  have ⟨given, nul, cr, written, shows⟩ := normalizeEditorContent_eq_ok.mp normalized
  have ⟨_, same⟩ := encodeTextDocument_eq_ok.mp encoded
  have head : encoding = .utf8 → text.head? ≠ some '\uFEFF' := by
    rw [written] at unmarked
    simpa only [ne_eq, head?_write (c := '\uFEFF') (by decide) (by decide)] using unmarked
  have decoded := decodeTextDocument_eq_ok.mpr ⟨rfl, head, nul, cr, LineEnding.shown_eq_crlf text ending⟩
  rw [LineEnding.write_shown, same] at decoded
  let reopened : NativeTextDocument := ⟨.ofList text, revisionFromBytes digest bytes modified, encoding, ending.shown text⟩
  refine ⟨_, reopened, rfl, openTextDocument_eq_ok.mpr ⟨small, rfl, ?_⟩, ?_, rfl, fun lf => ?_⟩
  · rw [String.toList_ofList]
    exact decoded
  · rw [String.toList_ofList, written, crlfToLf_write cr]
  · rw [written, mem_write (by decide)] at lf
    exact if_pos lf

end Saving

end VibeLink.Editor
