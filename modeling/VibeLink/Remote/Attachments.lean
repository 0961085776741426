import VibeLink.Binary.Base64
import VibeLink.Coordinator.Store
import VibeLink.Relational.Maps
import VibeLink.Relational.Runs
import VibeLink.Remote.OutputPump

/-! Files sent over the bridge in chunks (`V2AttachmentUploads` in `remote/bridge.rs`).  The decoder of chunks is given. -/

namespace VibeLink.Remote.Bridge.Attachments

open VibeLink.Relational
open VibeLink.Binary (padding IsBase64Decoder)

abbrev Bytes := List UInt8

def MAX_ATTACHMENT_UPLOADS_PER_CONNECTION : Nat := 2

def MAX_ATTACHMENT_BASE64_CHARS : Nat := 24 * 1024 * 1024

def MAX_ATTACHMENT_CHUNK_BASE64_CHARS : Nat := 512 * 1024

def ATTACHMENT_RETENTION : Nat := 24 * 60 * 60 * 1000000000

def ATTACHMENT_EXTENSIONS : List String := ["png", "jpg", "gif", "webp", "bmp", "heic", "heif", "avif"]

/-- `{upload_id}.{extension}` in the directory of attachments -/
structure Path where
  uploadId : Uuid
  extension : String
  deriving DecidableEq

structure File where
  content : Bytes
  modified : Nat

abbrev Directory := Path → Option File

structure V2AttachmentUpload where
  workspaceId : Uuid
  path : Path
  expectedBase64Length : Nat
  nextOffset : Nat
  deriving DecidableEq

structure State where
  entries : AList fun _ : Uuid => V2AttachmentUpload
  directory : Directory
  /-- The chunks that were accepted for an upload since it started. -/
  accepted : Uuid → List Bytes

def attachmentExtension (mimeType : String) : Except String String :=
  match (Coordinator.trim mimeType).toLower with
  | "image/png" => .ok "png"
  | "image/jpeg" | "image/jpg" => .ok "jpg"
  | "image/gif" => .ok "gif"
  | "image/webp" => .ok "webp"
  | "image/bmp" => .ok "bmp"
  | "image/heic" => .ok "heic"
  | "image/heif" => .ok "heif"
  | "image/avif" => .ok "avif"
  | _ => .error "invalid_argument: unsupported attachment image type"

def attachmentExpired (modified now retention : Nat) : Bool := retention < now - modified

def pruneAttachmentDirectory (directory : Directory) (now retention : Nat) (spared : Path → Bool) : Directory := fun path =>
  if ATTACHMENT_EXTENSIONS.contains path.extension.toLower && !spared path &&
    (directory path).any fun file => attachmentExpired file.modified now retention
  then none else directory path

/-- What is written goes to the end of the file, if its name still stands for it. -/
def writeAll (directory : Directory) (path : Path) (bytes : Bytes) (now : Nat) : Directory :=
  if bytes = [] then directory
  else Function.update directory path ((directory path).map fun file => ⟨file.content ++ bytes, now⟩)

/-- A call, with the random id and the times that it sees, and with what fails in it. -/
inductive Call
  | start (workspaceId : Uuid) (expectedBase64Length : Nat) (mimeType : String) (uploadId : Uuid) (now : Nat)
      (spared : Path → Bool) (noDirectory noFile : Bool)
  /-- `written`: the write fails after that many bytes. -/
  | append (workspaceId uploadId : Uuid) (offset : Nat) (dataBase64 : Bytes) (now : Nat) (written : Option Nat)
  | commit (workspaceId uploadId : Uuid) (flushFails removeFails : Bool)
  | abort (workspaceId uploadId : Uuid) (removeFails : Bool)

inductive Reply
  | started (uploadId : Uuid)
  | received (nextOffset : Nat)
  | committed (path : Path)
  | aborted
  deriving DecidableEq

def admission (s : State) (expectedBase64Length : Nat) (mimeType : String) : Except String String :=
  if expectedBase64Length < 4 ∨ expectedBase64Length % 4 ≠ 0 then .error "invalid_argument: attachment size is invalid"
  else if MAX_ATTACHMENT_BASE64_CHARS < expectedBase64Length then .error "attachment is too large"
  else if MAX_ATTACHMENT_UPLOADS_PER_CONNECTION ≤ s.entries.entries.length then
    .error "rate_limited: too many active attachment uploads"
  else attachmentExtension mimeType

def start (s : State) (workspaceId : Uuid) (expectedBase64Length : Nat) (mimeType : String) (uploadId : Uuid) (now : Nat)
    (spared : Path → Bool) (noDirectory noFile : Bool) : State × Except String Reply :=
  match admission s expectedBase64Length mimeType with
  | .error error => (s, .error error)
  | .ok extension =>
    if noDirectory then (s, .error "create attachment directory")
    else
      let path : Path := ⟨uploadId, extension⟩
      let directory := pruneAttachmentDirectory s.directory now ATTACHMENT_RETENTION spared
      -- `create_new`
      if noFile ∨ (directory path).isSome then ({ s with directory }, .error "create attachment file")
      else ({
        entries := s.entries.insert uploadId ⟨workspaceId, path, expectedBase64Length, 0⟩
        directory := Function.update directory path (some ⟨[], now⟩)
        accepted := Function.update s.accepted uploadId [] }, .ok (.started uploadId))

def Fits (dataBase64 : Bytes) : Prop :=
  dataBase64 ≠ [] ∧ dataBase64.length ≤ MAX_ATTACHMENT_CHUNK_BASE64_CHARS ∧ dataBase64.length % 4 = 0

instance (dataBase64 : Bytes) : Decidable (Fits dataBase64) := inferInstanceAs (Decidable (_ ∧ _))

/-- The end of `append`, where all checks are passed. -/
def appendBytes (s : State) (uploadId : Uuid) (upload : V2AttachmentUpload) (nextOffset : Nat) (dataBase64 bytes : Bytes)
    (now : Nat) : Option Nat → State × Except String Reply
  | some count =>
    ({ s with directory := writeAll s.directory upload.path (bytes.take count) now }, .error "write attachment chunk")
  | none => ({
      entries := s.entries.insert uploadId { upload with nextOffset }
      directory := writeAll s.directory upload.path bytes now
      accepted := Function.update s.accepted uploadId (s.accepted uploadId ++ [dataBase64]) },
    .ok (.received nextOffset))

def append (decode : Bytes → Option Bytes) (s : State) (workspaceId uploadId : Uuid) (offset : Nat) (dataBase64 : Bytes)
    (now : Nat) (written : Option Nat) : State × Except String Reply :=
  if ¬Fits dataBase64 then (s, .error "invalid_argument: attachment chunk is invalid")
  else match s.entries.lookup uploadId with
    | none => (s, .error "not_found: attachment upload not found")
    | some upload =>
      if upload.workspaceId ≠ workspaceId then (s, .error "stale_target: attachment belongs to a different workspace")
      else if upload.nextOffset ≠ offset then (s, .error "conflict: attachment chunk offset is out of order")
      else
        let nextOffset := offset + dataBase64.length
        if UInt64.size ≤ nextOffset then (s, .error "invalid_argument: attachment offset overflow")
        else if upload.expectedBase64Length < nextOffset then
          (s, .error "invalid_argument: attachment exceeds its declared size")
        else match decode dataBase64 with
          | none => (s, .error "invalid_argument: decode attachment chunk")
          | some bytes => appendBytes s uploadId upload nextOffset dataBase64 bytes now written

/-- `fs::remove_file` -/
def removeFile (directory : Directory) (path : Path) (fails : Bool) : Directory × Bool :=
  if fails ∨ (directory path).isNone then (directory, false) else (Function.update directory path none, true)

def commit (s : State) (workspaceId uploadId : Uuid) (flushFails removeFails : Bool) : State × Except String Reply :=
  match s.entries.lookup uploadId with
  | none => (s, .error "not_found: attachment upload not found")
  | some upload =>
    if upload.workspaceId ≠ workspaceId then (s, .error "stale_target: attachment belongs to a different workspace")
    else if upload.nextOffset ≠ upload.expectedBase64Length then (s, .error "conflict: attachment upload is incomplete")
    else
      let s := { s with entries := s.entries.erase uploadId }
      if flushFails then
        ({ s with directory := (removeFile s.directory upload.path removeFails).1 }, .error "flush attachment upload")
      else (s, .ok (.committed upload.path))

def abort (s : State) (workspaceId uploadId : Uuid) (removeFails : Bool) : State × Except String Reply :=
  match s.entries.lookup uploadId with
  | none => (s, .error "not_found: attachment upload not found")
  | some upload =>
    if upload.workspaceId ≠ workspaceId then (s, .error "stale_target: attachment belongs to a different workspace")
    else
      let removed := removeFile s.directory upload.path removeFails
      ({ s with entries := s.entries.erase uploadId, directory := removed.1 },
        if removed.2 then .ok .aborted else .error "remove attachment upload")

def perform (decode : Bytes → Option Bytes) (s : State) : Call → State × Except String Reply
  | .start workspaceId expectedBase64Length mimeType uploadId now spared noDirectory noFile =>
    start s workspaceId expectedBase64Length mimeType uploadId now spared noDirectory noFile
  | .append workspaceId uploadId offset dataBase64 now written =>
    append decode s workspaceId uploadId offset dataBase64 now written
  | .commit workspaceId uploadId flushFails removeFails => commit s workspaceId uploadId flushFails removeFails
  | .abort workspaceId uploadId removeFails => abort s workspaceId uploadId removeFails

def next (decode : Bytes → Option Bytes) (s : State) (call : Call) : State := (perform decode s call).1

def initial (directory : Directory) : State := ⟨∅, directory, fun _ => []⟩

/-! ### What is promised -/

def Call.names : Call → Option (Uuid × Uuid)
  | start _ _ _ _ _ _ _ _ => none
  | append workspaceId uploadId _ _ _ _ | commit workspaceId uploadId _ _ | abort workspaceId uploadId _ =>
    some (workspaceId, uploadId)

def contentAt (directory : Directory) (path : Path) : Option Bytes := (directory path).map File.content

def Same (s t : State) (uploadId : Uuid) : Prop :=
  ∀ upload, s.entries.lookup uploadId = some upload →
    t.entries.lookup uploadId = some upload ∧ contentAt t.directory upload.path = contentAt s.directory upload.path

def Aside (call : Call) (error : String) (uploadId : Uuid) : Prop :=
  (error = "flush attachment upload" ∨ error = "remove attachment upload") ∧ call.names.map Prod.snd = some uploadId

structure Holds (decode : Bytes → Option Bytes) (s : State) (call : Call) : Prop where
  committed : ∀ path, (perform decode s call).2 = .ok (.committed path) →
    ∃ workspaceId uploadId upload bytes, call.names = some (workspaceId, uploadId) ∧ s.entries.lookup uploadId = some upload ∧
      (s.accepted uploadId).flatten.length = upload.expectedBase64Length ∧ decode (s.accepted uploadId).flatten = some bytes ∧
      contentAt (next decode s call).directory path = some bytes
  refused : ∀ error, (perform decode s call).2 = .error error → ∀ uploadId, ¬Aside call error uploadId →
    Same s (next decode s call) uploadId
  foreign : ∀ workspaceId uploadId upload, call.names = some (workspaceId, uploadId) → s.entries.lookup uploadId = some upload →
    upload.workspaceId ≠ workspaceId → ∀ other, Same s (next decode s call) other
  bounded : (next decode s call).entries.entries.length ≤ MAX_ATTACHMENT_UPLOADS_PER_CONNECTION

/-- No write fails half-way, padding stands only in a chunk that completes its upload, and no open upload is pruned. -/
def Sound (decode : Bytes → Option Bytes) (s : State) : Call → Prop
  | .start _ expectedBase64Length mimeType _ now spared noDirectory _ =>
    (admission s expectedBase64Length mimeType).isOk = true → noDirectory = false → ∀ uploadId upload,
      s.entries.lookup uploadId = some upload →
        pruneAttachmentDirectory s.directory now ATTACHMENT_RETENTION spared upload.path = s.directory upload.path
  | .append workspaceId uploadId offset dataBase64 _ written =>
    Fits dataBase64 → ∀ upload bytes, s.entries.lookup uploadId = some upload → upload.workspaceId = workspaceId → upload.nextOffset = offset →
      decode dataBase64 = some bytes →
        (written = none → padding ∈ dataBase64 → upload.expectedBase64Length ≤ offset + dataBase64.length) ∧
          ∀ count, written = some count → offset + dataBase64.length ≤ upload.expectedBase64Length → bytes.take count = []
  | .commit _ _ _ _ | .abort _ _ _ => True

/-! ### What every call keeps -/

/-- The file of an open upload is what its accepted chunks decode to. -/
structure Open (decode : Bytes → Option Bytes) (s : State) (uploadId : Uuid) (upload : V2AttachmentUpload) : Prop where
  path : upload.path.uploadId = uploadId
  offset : upload.nextOffset = (s.accepted uploadId).flatten.length
  groups : upload.nextOffset % 4 = 0
  plain : upload.nextOffset < upload.expectedBase64Length → padding ∉ (s.accepted uploadId).flatten
  decoded : ∃ content, contentAt s.directory upload.path = some content ∧ decode (s.accepted uploadId).flatten = some content

structure Invariant (decode : Bytes → Option Bytes) (s : State) : Prop where
  each : ∀ uploadId upload, s.entries.lookup uploadId = some upload → Open decode s uploadId upload
  bounded : s.entries.entries.length ≤ MAX_ATTACHMENT_UPLOADS_PER_CONNECTION

section Steps

variable {decode : Bytes → Option Bytes} {s t : State} {call : Call} {uploadId workspaceId : Uuid} {upload : V2AttachmentUpload}
  {error : String}

theorem Open.congr (is : Open decode s uploadId upload) (same : contentAt t.directory upload.path = contentAt s.directory upload.path)
    (same' : t.accepted uploadId = s.accepted uploadId) : Open decode t uploadId upload where
  path := is.path
  offset := by rw [is.offset, same']
  groups := is.groups
  plain := same'.symm ▸ is.plain
  decoded := by
    rw [same, same']
    exact is.decoded

theorem Invariant.ne_path (invariant : Invariant decode s) (found : s.entries.lookup uploadId = some upload) {path : Path}
    (other : path.uploadId ≠ uploadId) : upload.path ≠ path :=
  fun same => other (same ▸ (invariant.each uploadId upload found).path)

theorem same_refl (s : State) (uploadId : Uuid) : Same s s uploadId := fun _ found => ⟨found, rfl⟩

theorem step_of {reply : Except String Reply} (done : perform decode s call = (t, reply)) (invariant : Invariant decode t)
    (committed : ∀ path, reply = .ok (.committed path) →
      ∃ workspaceId uploadId upload bytes, call.names = some (workspaceId, uploadId) ∧ s.entries.lookup uploadId = some upload ∧
        (s.accepted uploadId).flatten.length = upload.expectedBase64Length ∧ decode (s.accepted uploadId).flatten = some bytes ∧
        contentAt t.directory path = some bytes)
    (refused : ∀ error, reply = .error error → ∀ uploadId, ¬Aside call error uploadId → Same s t uploadId)
    (own : ∀ workspaceId uploadId upload, call.names = some (workspaceId, uploadId) → s.entries.lookup uploadId = some upload →
      upload.workspaceId = workspaceId) : Holds decode s call ∧ Invariant decode (next decode s call) := by
  have after : next decode s call = t := congrArg Prod.fst done
  have answer : (perform decode s call).2 = reply := congrArg Prod.snd done
  rw [after]
  refine ⟨⟨?_, ?_, ?_, ?_⟩, invariant⟩
  · rw [answer, after]
    exact committed
  · rw [answer, after]
    exact refused
  · exact fun workspaceId uploadId upload named found foreign => absurd (own workspaceId uploadId upload named found) foreign
  · rw [after]
    exact invariant.bounded

theorem step_of_refused (done : perform decode s call = (s, .error error)) (invariant : Invariant decode s) :
    Holds decode s call ∧ Invariant decode (next decode s call) := by
  have after : next decode s call = s := congrArg Prod.fst done
  have answer : (perform decode s call).2 = .error error := congrArg Prod.snd done
  rw [after]
  refine ⟨⟨?_, ?_, ?_, ?_⟩, invariant⟩
  · rw [answer]
    exact fun _ is => by cases is
  · rw [after]
    exact fun _ _ uploadId _ => same_refl s uploadId
  · rw [after]
    exact fun _ _ _ _ _ _ other => same_refl s other
  · rw [after]
    exact invariant.bounded

theorem contentAt_update (directory : Directory) (path other : Path) (file : Option File) :
    contentAt (Function.update directory path file) other = if other = path then file.map File.content else contentAt directory other := by
  unfold contentAt
  rw [Function.update_apply]
  split <;> rfl

theorem contentAt_writeAll (directory : Directory) (path other : Path) (bytes : Bytes) (now : Nat) :
    contentAt (writeAll directory path bytes now) other =
      if other = path then (contentAt directory path).map (· ++ bytes) else contentAt directory other := by
  unfold writeAll
  split
  · rename_i none
    split
    · rename_i same
      rw [same, none]
      simp
    · rfl
  · rw [contentAt_update, Option.map_map]
    unfold contentAt
    rw [Option.map_map]
    rfl

theorem length_insert_le (entries : AList fun _ : Uuid => V2AttachmentUpload) (uploadId : Uuid) (upload : V2AttachmentUpload) :
    (entries.insert uploadId upload).entries.length ≤ entries.entries.length + 1 := by
  rw [AList.entries_insert, List.length_cons]
  exact Nat.succ_le_succ ((List.kerase_sublist _ _).length_le)

theorem length_insert {entries : AList fun _ : Uuid => V2AttachmentUpload} (found : entries.lookup uploadId = some upload)
    (upload' : V2AttachmentUpload) : (entries.insert uploadId upload').entries.length = entries.entries.length := by
  have there : uploadId ∈ entries.keys := AList.lookup_isSome.mp (by rw [found]; rfl)
  have ⟨_, front, behind, _, is, erased⟩ := List.exists_of_kerase there
  rw [AList.entries_insert, erased, is, List.length_cons, List.length_append, List.length_append, List.length_cons]
  rfl

theorem room_of_admission {expectedBase64Length : Nat} {mimeType extension : String}
    (admitted : admission s expectedBase64Length mimeType = .ok extension) :
    s.entries.entries.length + 1 ≤ MAX_ATTACHMENT_UPLOADS_PER_CONNECTION := by
  unfold admission at admitted
  split at admitted
  · cases admitted
  split at admitted
  · cases admitted
  split at admitted
  · cases admitted
  · omega

/-! ### One call -/

theorem start_step (decoder : IsBase64Decoder decode) {expectedBase64Length now : Nat} {mimeType : String} {spared : Path → Bool}
    {noDirectory noFile : Bool} (invariant : Invariant decode s)
    (sound : Sound decode s (.start workspaceId expectedBase64Length mimeType uploadId now spared noDirectory noFile)) :
    Holds decode s (.start workspaceId expectedBase64Length mimeType uploadId now spared noDirectory noFile) ∧
      Invariant decode (next decode s (.start workspaceId expectedBase64Length mimeType uploadId now spared noDirectory noFile)) := by
  generalize call' : Call.start workspaceId expectedBase64Length mimeType uploadId now spared noDirectory noFile = call
  have done : perform decode s call = start s workspaceId expectedBase64Length mimeType uploadId now spared noDirectory noFile := by
    rw [← call']
    rfl
  have nameless : call.names = none := by
    rw [← call']
    rfl
  cases admitted : admission s expectedBase64Length mimeType with
  | error error =>
    rw [start, admitted] at done
    exact step_of_refused done invariant
  | ok extension =>
    rw [start, admitted] at done
    dsimp only at done
    cases noDirectory with
    | true =>
      rw [if_pos rfl] at done
      exact step_of_refused done invariant
    | false =>
      rw [if_neg Bool.false_ne_true] at done
      have kept := sound (by rw [admitted]; rfl) rfl
      have same (other : Uuid) (upload : V2AttachmentUpload) (found : s.entries.lookup other = some upload) :
          contentAt (pruneAttachmentDirectory s.directory now ATTACHMENT_RETENTION spared) upload.path =
            contentAt s.directory upload.path := congrArg (Option.map File.content) (kept other upload found)
      split at done
      · refine step_of done ⟨fun other upload found => ?_, invariant.bounded⟩ (fun _ is => by cases is) (fun _ _ other _ => ?_)
          (fun _ _ _ named => by cases nameless.symm.trans named)
        · exact (invariant.each other upload found).congr (same other upload found) rfl
        · exact fun upload found => ⟨found, same other upload found⟩
      · refine step_of done ⟨fun other upload found => ?_, (length_insert_le _ _ _).trans (room_of_admission admitted)⟩
          (fun _ is => by cases is) (fun _ is => by cases is) (fun _ _ _ named => by cases nameless.symm.trans named)
        dsimp only at found ⊢
        rw [lookup_insert] at found
        split at found
        · rename_i is
          cases found
          rw [is]
          refine ⟨rfl, ?_, rfl, ?_, [], ?_, ?_⟩
          · dsimp only
            rw [Function.update_self]
            rfl
          · dsimp only
            rw [Function.update_self]
            exact fun _ => List.not_mem_nil
          · dsimp only
            rw [contentAt_update, if_pos rfl]
            rfl
          · dsimp only
            rw [Function.update_self]
            exact decoder.nil
        · rename_i ne
          refine (invariant.each other upload found).congr ?_ (Function.update_of_ne ne _ _)
          dsimp only
          rw [contentAt_update, if_neg (invariant.ne_path found fun is => ne is.symm)]
          exact same other upload found

theorem append_eq {offset now : Nat} {dataBase64 : Bytes} {written : Option Nat} :
    (∃ error, append decode s workspaceId uploadId offset dataBase64 now written = (s, .error error)) ∨
      ∃ upload bytes, Fits dataBase64 ∧ s.entries.lookup uploadId = some upload ∧ upload.workspaceId = workspaceId ∧
        upload.nextOffset = offset ∧ offset + dataBase64.length ≤ upload.expectedBase64Length ∧ decode dataBase64 = some bytes ∧
        append decode s workspaceId uploadId offset dataBase64 now written =
          appendBytes s uploadId upload (offset + dataBase64.length) dataBase64 bytes now written := by
  unfold append
  split
  · exact .inl ⟨_, rfl⟩
  rename_i fits
  split
  · exact .inl ⟨_, rfl⟩
  rename_i upload found
  split
  · exact .inl ⟨_, rfl⟩
  rename_i own
  split
  · exact .inl ⟨_, rfl⟩
  rename_i offset'
  dsimp only
  split
  · exact .inl ⟨_, rfl⟩
  split
  · exact .inl ⟨_, rfl⟩
  rename_i le
  split
  · exact .inl ⟨_, rfl⟩
  rename_i bytes decoded
  exact .inr ⟨upload, bytes, not_not.mp fits, found, not_not.mp own, not_not.mp offset', Nat.le_of_not_lt le, decoded, rfl⟩

theorem Open.extend (decoder : IsBase64Decoder decode) {dataBase64 bytes : Bytes} (is : Open decode s uploadId upload) (now : Nat)
    (room : upload.nextOffset + dataBase64.length ≤ upload.expectedBase64Length) (fits : Fits dataBase64)
    (decoded : decode dataBase64 = some bytes)
    (last : padding ∈ dataBase64 → upload.expectedBase64Length ≤ upload.nextOffset + dataBase64.length)
    (directory : t.directory = writeAll s.directory upload.path bytes now)
    (accepted : t.accepted uploadId = s.accepted uploadId ++ [dataBase64]) :
    Open decode t uploadId { upload with nextOffset := upload.nextOffset + dataBase64.length } := by
  have ⟨content, there, before⟩ := is.decoded
  have flat : (t.accepted uploadId).flatten = (s.accepted uploadId).flatten ++ dataBase64 := by
    rw [accepted, List.flatten_append, List.flatten_singleton]
  have plain : padding ∉ (s.accepted uploadId).flatten := by
    apply is.plain
    have nonempty := List.length_pos_iff.mpr fits.1
    omega
  refine ⟨is.path, ?_, ?_, ?_, content ++ bytes, ?_, ?_⟩
  · rw [flat, List.length_append, ← is.offset]
  · rw [Nat.add_mod, is.groups, fits.2.2]
  · intro lt
    rw [flat, List.mem_append, not_or]
    exact ⟨plain, fun there => absurd (last there) (Nat.not_le_of_lt lt)⟩
  · rw [directory, contentAt_writeAll, if_pos rfl, there]
    rfl
  · rw [flat]
    exact decoder.append (by rw [← is.offset]; exact is.groups) plain before decoded

theorem owner_of_found {upload : V2AttachmentUpload} (named : call.names = some (workspaceId, uploadId))
    (found : s.entries.lookup uploadId = some upload) (own : upload.workspaceId = workspaceId) (workspaceId' uploadId' : Uuid)
    (upload' : V2AttachmentUpload) (named' : call.names = some (workspaceId', uploadId'))
    (found' : s.entries.lookup uploadId' = some upload') : upload'.workspaceId = workspaceId' := by
  cases named.symm.trans named'
  cases found.symm.trans found'
  exact own

theorem append_step (decoder : IsBase64Decoder decode) {offset now : Nat} {dataBase64 : Bytes} {written : Option Nat}
    (invariant : Invariant decode s) (sound : Sound decode s (.append workspaceId uploadId offset dataBase64 now written)) :
    Holds decode s (.append workspaceId uploadId offset dataBase64 now written) ∧
      Invariant decode (next decode s (.append workspaceId uploadId offset dataBase64 now written)) := by
  obtain ⟨error, done⟩ | ⟨upload, bytes, fits, found, own, offset', room, decoded, done⟩ :=
    @append_eq decode s uploadId workspaceId offset now dataBase64 written
  · exact step_of_refused done invariant
  have named : (Call.append workspaceId uploadId offset dataBase64 now written).names = some (workspaceId, uploadId) := rfl
  have own' := owner_of_found named found own
  have ⟨last, whole⟩ := sound fits upload bytes found own offset' decoded
  cases written with
  | some count =>
    have nothing : writeAll s.directory upload.path (bytes.take count) now = s.directory := if_pos (whole count rfl room)
    rw [appendBytes, nothing] at done
    exact step_of_refused done invariant
  | none =>
    rw [appendBytes] at done
    have others (other : Uuid) (upload' : V2AttachmentUpload) (ne : other ≠ uploadId) (found' : s.entries.lookup other = some upload') :
        contentAt (writeAll s.directory upload.path bytes now) upload'.path = contentAt s.directory upload'.path := by
      have apart := invariant.ne_path found' (fun is => ne (is.symm.trans (invariant.each uploadId upload found).path))
      rw [contentAt_writeAll, if_neg apart]
    refine step_of done ⟨fun other upload' found' => ?_, ?_⟩ (fun _ is => by cases is) (fun _ is => by cases is) own'
    · dsimp only at found'
      rw [lookup_insert] at found'
      split at found'
      · rename_i is
        cases found'
        rw [is, ← offset']
        exact (invariant.each uploadId upload found).extend decoder now (offset' ▸ room) fits decoded
          (fun there => offset' ▸ last rfl there) rfl (Function.update_self _ _ _)
      · rename_i ne
        exact (invariant.each other upload' found').congr (others other upload' ne found') (Function.update_of_ne ne _ _)
    · rw [length_insert found]
      exact invariant.bounded

theorem Invariant.erase (invariant : Invariant decode s) (found : s.entries.lookup uploadId = some upload) {directory : Directory}
    (others : ∀ path, path ≠ upload.path → contentAt directory path = contentAt s.directory path) :
    Invariant decode { s with entries := s.entries.erase uploadId, directory } ∧
      ∀ other, other ≠ uploadId → Same s { s with entries := s.entries.erase uploadId, directory } other := by
  have apart {other : Uuid} {upload' : V2AttachmentUpload} (ne : other ≠ uploadId) (found' : s.entries.lookup other = some upload') :
      upload'.path ≠ upload.path :=
    invariant.ne_path found' fun is => ne (is.symm.trans (invariant.each uploadId upload found).path)
  refine ⟨⟨fun other upload' found' => ?_, ?_⟩, fun other ne upload' found' => ⟨?_, others _ (apart ne found')⟩⟩
  · dsimp only at found'
    rw [lookup_erase] at found'
    split at found'
    · cases found'
    · rename_i ne
      exact (invariant.each other upload' found').congr (others _ (apart ne found')) rfl
  · exact (List.kerase_sublist _ _).length_le.trans invariant.bounded
  · dsimp only
    rw [lookup_erase, if_neg ne]
    exact found'

theorem contentAt_removeFile (directory : Directory) (path other : Path) (fails : Bool) (ne : other ≠ path) :
    contentAt (removeFile directory path fails).1 other = contentAt directory other := by
  unfold removeFile
  split
  · rfl
  · rw [contentAt_update, if_neg ne]

theorem commit_step {flushFails removeFails : Bool} (invariant : Invariant decode s) :
    Holds decode s (.commit workspaceId uploadId flushFails removeFails) ∧
      Invariant decode (next decode s (.commit workspaceId uploadId flushFails removeFails)) := by
  generalize call' : Call.commit workspaceId uploadId flushFails removeFails = call
  have done : perform decode s call = commit s workspaceId uploadId flushFails removeFails := by
    rw [← call']
    rfl
  have named : call.names = some (workspaceId, uploadId) := by
    rw [← call']
    rfl
  unfold commit at done
  split at done
  · exact step_of_refused done invariant
  rename_i upload found
  split at done
  · exact step_of_refused done invariant
  rename_i own
  split at done
  · exact step_of_refused done invariant
  rename_i complete
  have own' := owner_of_found named found (not_not.mp own)
  have is := invariant.each uploadId upload found
  have ⟨content, there, decoded⟩ := is.decoded
  dsimp only at done
  split at done
  · have gone := invariant.erase found fun path ne => contentAt_removeFile s.directory upload.path path removeFails ne
    refine step_of done gone.1 (fun _ is => by cases is) (fun error is other aside => gone.2 other fun same => aside ?_) own'
    cases is
    exact ⟨.inl rfl, by rw [named, same]; rfl⟩
  · have gone := invariant.erase found fun path _ => rfl
    refine step_of done gone.1 (fun path is => ?_) (fun _ is => by cases is) own'
    cases is
    exact ⟨workspaceId, uploadId, upload, content, named, found, is.offset.symm.trans (not_not.mp complete), decoded, there⟩

theorem abort_step {removeFails : Bool} (invariant : Invariant decode s) :
    Holds decode s (.abort workspaceId uploadId removeFails) ∧
      Invariant decode (next decode s (.abort workspaceId uploadId removeFails)) := by
  generalize call' : Call.abort workspaceId uploadId removeFails = call
  have done : perform decode s call = abort s workspaceId uploadId removeFails := by
    rw [← call']
    rfl
  have named : call.names = some (workspaceId, uploadId) := by
    rw [← call']
    rfl
  unfold abort at done
  split at done
  · exact step_of_refused done invariant
  rename_i upload found
  split at done
  · exact step_of_refused done invariant
  rename_i own
  have own' := owner_of_found named found (not_not.mp own)
  have gone := invariant.erase found fun path ne => contentAt_removeFile s.directory upload.path path removeFails ne
  refine step_of done gone.1 (fun path is => ?_) (fun error is other aside => gone.2 other fun same => aside ?_) own'
  · split at is <;> cases is
  · split at is
    · cases is
    · cases is
      exact ⟨.inr rfl, by rw [named, same]; rfl⟩

theorem step (decoder : IsBase64Decoder decode) (invariant : Invariant decode s) (sound : Sound decode s call) :
    Holds decode s call ∧ Invariant decode (next decode s call) := by
  cases call with
  | start => exact start_step decoder invariant sound
  | append => exact append_step decoder invariant sound
  | commit => exact commit_step invariant
  | abort => exact abort_step invariant

end Steps

theorem invariant_initial (decode : Bytes → Option Bytes) (directory : Directory) : Invariant decode (initial directory) :=
  ⟨fun _ _ found => (by cases found), Nat.zero_le _⟩

theorem holds_of_sound {decode : Bytes → Option Bytes} (decoder : IsBase64Decoder decode) (directory : Directory) (calls : List Call)
    (sound : Throughout (next decode) (Sound decode) (initial directory) calls) :
    Throughout (next decode) (Holds decode) (initial directory) calls := by
  have from_invariant : ∀ s, Invariant decode s → Throughout (next decode) (Sound decode) s calls →
      Throughout (next decode) (Holds decode) s calls := by
    clear sound
    induction calls with
    | nil => exact fun _ _ _ => trivial
    | cons call calls ih =>
      intro s invariant sound
      have ⟨holds, after⟩ := step decoder invariant sound.1
      exact ⟨holds, ih _ after sound.2⟩
  exact from_invariant _ (invariant_initial decode directory) sound

def begin' (expectedBase64Length : Nat) : Call := .start 1 expectedBase64Length "image/png" 7 0 (fun _ => false) false false

def sent : List Call := [begin' 4, .append 1 7 0 [81, 85, 74, 68] 0 none, .commit 1 7 false false]

theorem holds_sent : Throughout (next Binary.ofBase64) (Holds Binary.ofBase64) (initial fun _ => none) sent ∧
    contentAt (sent.foldl (next Binary.ofBase64) (initial fun _ => none)).directory ⟨7, "png"⟩ = some [65, 66, 67] := by
  refine ⟨holds_of_sound Binary.isBase64Decoder_ofBase64 _ _ ⟨?_, ?_, trivial, trivial⟩, by decide +kernel⟩
  · exact fun _ _ _ _ found => by cases found
  · intro _ upload bytes _ _ _ _
    exact ⟨fun _ there => absurd there (by decide), fun _ is => by cases is⟩

def padded : List Call := [begin' 8, .append 1 7 0 [81, 81, 61, 61] 0 none, .append 1 7 4 [81, 81, 61, 61] 0 none]

theorem commit_of_no_base64 :
    ¬∀ directory calls, Throughout (next Binary.ofBase64) (Holds Binary.ofBase64) (initial directory) calls := by
  intro always
  have last := (throughout_append.1 (always (fun _ => none) (padded ++ [.commit 1 7 false false]))).2.1
  have ⟨workspaceId, uploadId, upload, bytes, named, _, _, decoded, _⟩ := last.committed ⟨7, "png"⟩ (by decide +kernel)
  cases named
  have accepted : ((padded.foldl (next Binary.ofBase64) (initial fun _ => none)).accepted 7).flatten =
      [81, 81, 61, 61, 81, 81, 61, 61] := by decide +kernel
  rw [accepted] at decoded
  cases decoded

end VibeLink.Remote.Bridge.Attachments
