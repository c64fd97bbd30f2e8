import BasisCell.Agent.Storage
import BasisCell.Lib.Files
import BasisCell.Lib.Pool

/-!
# `BasisCell.Agent.Images` — the image cache

`image.rs`: `ensure_cached` and what it calls, down to `ensure_image_lv` of `lvm.rs`, as programs over the
images directory, the golden volumes and the per-reference locks. A pull streams each layer into a side file,
checks its digest and moves it into place; the qcow2 is rewritten by `qemu-img` straight at its place. `qemu-img`
takes time: a conversion starts, leaving its target torn, and ends.

Every request to the registry, every `qemu-img` and every lvm2 command may fail, at any of its uses
(`ImageWorld.fails`), and the registry may stream whatever it likes. A call waits for a lock as long as it is
taken, and a restart of the agent may come between any two operations.

The cache is keyed by the reference with every `/`, `:` and `.` made a `_`. So the paths and the golden volume a
call returns say no more about its reference than that: two calls return the same ones exactly if their
references agree up to these characters (`images_apart_iff`).
-/

namespace BasisCell.Agent

open Conc Conc.Protocol Storage List Transition
open Function (update)

abbrev Bytes := List UInt8

/-! ## References and paths -/

/-- `image_ref_to_prefix`. -/
def imageRefToPrefix (imageRef : String) : String :=
  String.ofList (imageRef.toList.map fun c => if c = '/' ∨ c = ':' ∨ c = '.' then '_' else c)

inductive Ext where
  | qcow2 | vmlinuz | initrd | partialFile
  deriving DecidableEq, Repr

def Ext.text : Ext → String
  | qcow2 => "qcow2"
  | vmlinuz => "vmlinuz"
  | initrd => "initrd"
  | partialFile => "partial"

/-- A file of the images directory. The stem has no dot, so that `with_extension` replaces all that follows it. -/
structure CachePath where
  stem : String
  ext : Ext
  deriving DecidableEq, Repr

def CachePath.text (imagesDir : String) (p : CachePath) : String := s!"{imagesDir}/{p.stem}.{p.ext.text}"

/-! ## Manifests and digests -/

def mediaTypeQcow2 : String := "application/vnd.lattice.node.v1+qcow2"
def mediaTypeKernel : String := "application/vnd.lattice.node.v1+kernel"
def mediaTypeInitrd : String := "application/vnd.lattice.node.v1+initrd"

structure Layer where
  mediaType : String
  digest : String
  deriving DecidableEq, Repr

structure Manifest where
  layers : List Layer
  deriving DecidableEq, Repr

inductive ImageError where
  | badReference (imageRef what : String)
  | pullFailed (what : String)
  | missingLayer (mediaType : String)
  | digestMismatch (mediaType expected actual : String)
  | unsupportedDigest (alg : String)
  | lvm (e : LvmError)
  /-- `LvmError::ImageConvert`. -/
  | imageConvert (what : String)
  | imageInfo (what : String)
  | io (what : String)
  deriving DecidableEq, Repr

def hexDigit (n : Nat) : Char := ("0123456789abcdef".toList.getD n '0')

/-- `hex_lower`. -/
def hexLower (bytes : Bytes) : String :=
  String.ofList (bytes.flatMap fun b => [hexDigit (b.toNat / 16), hexDigit (b.toNat % 16)])

/-- `split_once`. -/
def splitOnce (c : Char) (text : String) : Option (String × String) :=
  match text.toList.dropWhile (· ≠ c) with
  | [] => none
  | _ :: tail => some (String.ofList (text.toList.takeWhile (· ≠ c)), String.ofList tail)

/-- `eq_ignore_ascii_case`. -/
def eqIgnoreAsciiCase (a b : String) : Bool := a.toList.map Char.toLower = b.toList.map Char.toLower

/-- The algorithm is sha256, and the hex digits say what the bytes hashed to. -/
def verifyDigest (mediaType expected : String) (actual : Bytes) : Except ImageError Unit :=
  match splitOnce ':' expected with
  | none => .error (.unsupportedDigest expected)
  | some (alg, hexExpected) =>
    if alg ≠ "sha256" then .error (.unsupportedDigest alg)
    else if !eqIgnoreAsciiCase hexExpected (hexLower actual) then
      .error (.digestMismatch mediaType expected s!"sha256:{hexLower actual}")
    else .ok ()

/-! ## The world of the cache -/

/-- What a file or a volume holds: bytes that were written as a whole, or what an interrupted conversion or one
    under way leaves. -/
inductive Content where
  | whole (bytes : Bytes)
  | torn
  deriving DecidableEq, Repr

/-- How a request or a command fails. -/
inductive RequestError where
  | timedOut
  | failed (what : String)
  deriving DecidableEq, Repr

/-- The message, given the one for a timeout and what stands before the error otherwise. -/
def RequestError.text (timeout lead : String) : RequestError → String
  | timedOut => timeout
  | failed what => lead ++ what

/-- What the cache relies on. Requests and commands are counted through, so that each may end differently. -/
structure ImageWorld where
  imagesDir : String
  rootfsVg : String
  /-- The error of `Reference::from_str`, if there is one. -/
  badReference : String → Option String
  /-- Of a reference; a tag does not move. -/
  manifest : String → Manifest
  /-- The chunks that the `n`-th request is going to deliver. -/
  stream : Nat → String → Layer → List Bytes
  sha256 : Bytes → Bytes
  /-- `qemu-img convert -O qcow2`. -/
  decompress : Bytes → Bytes
  /-- `qemu-img convert -O raw`. -/
  raw : Bytes → Bytes
  /-- The virtual size `qemu-img info` reports, in bytes; the header of a torn image may do. -/
  virtualSize : Content → Except String Nat
  /-- Does the `n`-th request or command fail? -/
  fails : Nat → Option RequestError

structure Golden where
  readOnly : Bool
  content : Content
  deriving DecidableEq, Repr

structure ImageStore where
  disk : Files.Disk CachePath Content := .empty .torn
  /-- Golden volumes, by name. -/
  golden : String → Option Golden := fun _ => none
  /-- Which call holds the lock of a reference. -/
  locks : String → Option Nat := fun _ => none
  /-- The permit of the rootfs gate is taken. -/
  permit : Bool := false
  /-- How many requests and commands there have been. -/
  count : Nat := 0

/-- A `qemu-img` at work: the file it reads and what was in it when it started. -/
structure Conversion (Target : Type) where
  source : Nat
  seen : Content
  target : Target

/-- What a conversion that succeeds has written. -/
def Conversion.result {Target : Type} (conv : Conversion Target) (f : Bytes → Bytes) (s : ImageStore) : Content :=
  if s.disk.file conv.source = conv.seen then
    match conv.seen with
    | .whole bytes => .whole (f bytes)
    | .torn => .torn
  else .torn

/-- Bytes written over a content at a position. -/
def Content.overwrite (pos : Nat) (chunk : Bytes) : Content → Content
  | .whole bytes =>
    -- a gap reads as zeros
    let front := (bytes ++ List.replicate (pos - bytes.length) 0).take pos
    .whole (front ++ chunk ++ bytes.drop (pos + chunk.length))
  | .torn => .torn

inductive ImageOp where
  | fileExists (p : CachePath)
  /-- Is the device node of a golden volume there? -/
  | lvPathExists (lv : String)
  | lock (call : Nat) (imageRef : String)
  | unlock (imageRef : String)
  | pullImageManifest (imageRef : String)
  | createFile (p : CachePath)
  | pullBlobStream (imageRef : String) (layer : Layer)
  /-- `stream.try_next()`; an error is a broken or a stalled stream. -/
  | tryNext
  | writeAll (file pos : Nat) (chunk : Bytes)
  | removeFile (p : CachePath)
  | rename (p q : CachePath)
  | qemuImgInfo (p : CachePath)
  /-- `qemu-img convert` between files. -/
  | convertStart (src dst : CachePath)
  | convertEnd (conv : Conversion Nat)
  /-- `qemu-img convert` into a volume. -/
  | fillStart (src : CachePath) (lv : String)
  | fillEnd (conv : Conversion String)
  | acquire
  | release
  | lvAttr (lv : String)
  | lvremove (lv : String)
  | lvcreateThin (lv : String) (sizeGib : Nat)
  | lvchangeReadOnly (lv : String)

def ImageOp.Resp : ImageOp → Type
  | .fileExists _ | .lvPathExists _ | .acquire => Bool
  | .pullImageManifest _ => Except RequestError Manifest
  | .createFile _ => Nat
  | .pullBlobStream _ _ => Except RequestError (List Bytes)
  | .tryNext => Except RequestError Unit
  | .rename _ _ | .lvremove _ | .lvcreateThin _ _ | .lvchangeReadOnly _ => Except String Unit
  | .qemuImgInfo _ => Except String Nat
  | .convertStart _ _ => Except String (Option (Conversion Nat))
  | .fillStart _ _ => Except String (Option (Conversion String))
  /- whether the exit status is a success -/
  | .convertEnd _ | .fillEnd _ => Bool
  /- whether the volume is read-only -/
  | .lvAttr _ => Except String (Option Bool)
  | _ => Unit

namespace ImageStore

/-- One more request or command. -/
def counted (s : ImageStore) : ImageStore := { s with count := s.count + 1 }

/-- A command's error output. -/
def stderr : RequestError → String := RequestError.text "" ""

def setGolden (s : ImageStore) (lv : String) (g : Option Golden) : ImageStore :=
  { s with golden := update s.golden lv g }

end ImageStore

open ImageStore in
/-- A request or command that fails has no effect, but for a conversion, whose target is torn by then. -/
def ImageOp.exec (w : ImageWorld) : (o : ImageOp) → ImageStore → ImageStore × o.Resp
  | .fileExists p, s => (s, (s.disk.look p).isSome)
  | .lvPathExists lv, s => (s, (s.golden lv).isSome)
  | .lock call imageRef, s => ({ s with locks := update s.locks imageRef (some call) }, ())
  | .unlock imageRef, s => ({ s with locks := update s.locks imageRef none }, ())
  | .pullImageManifest imageRef, s =>
    (s.counted, match w.fails s.count with
      | some e => .error e
      | none => .ok (w.manifest imageRef))
  | .createFile p, s =>
    ({ s with disk := (s.disk.create p (.whole [])).1 }, (s.disk.create p (.whole [])).2)
  | .pullBlobStream imageRef layer, s =>
    (s.counted, match w.fails s.count with
      | some e => .error e
      | none => .ok (w.stream s.count imageRef layer))
  | .tryNext, s =>
    (s.counted, match w.fails s.count with
      | some e => .error e
      | none => .ok ())
  | .writeAll file pos chunk, s =>
    ({ s with disk := s.disk.put file ((s.disk.file file).overwrite pos chunk) }, ())
  | .removeFile p, s => ({ s with disk := s.disk.remove p }, ())
  | .rename p q, s =>
    match s.disk.rename p q with
    | some disk => ({ s with disk }, .ok ())
    | none => (s, .error "No such file or directory (os error 2)")
  | .qemuImgInfo p, s =>
    (s.counted, match w.fails s.count, s.disk.look p with
      | some e, _ => .error (stderr e)
      | none, some content => w.virtualSize content
      | none, none => .error "Could not open: No such file or directory")
  | .convertStart src dst, s =>
    match w.fails s.count, s.disk.name src with
    | some e, _ => (s.counted, .error (stderr e))
    | none, none => (s.counted, .ok none)
    | none, some i =>
      ({ s.counted with disk := (s.disk.create dst .torn).1 },
        .ok (some ⟨i, s.disk.file i, (s.disk.create dst .torn).2⟩))
  | .convertEnd conv, s =>
    match w.fails s.count with
    | some _ => (s.counted, false)
    | none => ({ s.counted with disk := s.disk.put conv.target (conv.result w.decompress s) }, true)
  | .fillStart src lv, s =>
    match w.fails s.count, s.disk.name src, s.golden lv with
    | some e, _, _ => (s.counted, .error (stderr e))
    | none, some i, some g =>
      (s.counted.setGolden lv (some { g with content := .torn }), .ok (some ⟨i, s.disk.file i, lv⟩))
    | none, _, _ => (s.counted, .ok none)
  | .fillEnd conv, s =>
    match w.fails s.count, s.golden conv.target with
    | none, some g => (s.counted.setGolden conv.target (some { g with content := conv.result w.raw s }), true)
    | _, _ => (s.counted, false)
  | .acquire, s => if s.permit then (s, false) else ({ s with permit := true }, true)
  | .release, s => ({ s with permit := false }, ())
  | .lvAttr lv, s =>
    (s.counted, match w.fails s.count with
      | some e => .error (stderr e)
      | none => .ok ((s.golden lv).map (·.readOnly)))
  | .lvremove lv, s =>
    match w.fails s.count with
    | some e => (s.counted, .error (stderr e))
    | none => (s.counted.setGolden lv none, .ok ())
  | .lvcreateThin lv _, s =>
    match w.fails s.count, s.golden lv with
    | some e, _ => (s.counted, .error (stderr e))
    | none, some _ => (s.counted, .error s!"Logical Volume \"{lv}\" already exists")
    | none, none => (s.counted.setGolden lv (some ⟨false, .torn⟩), .ok ())
  | .lvchangeReadOnly lv, s =>
    match w.fails s.count, s.golden lv with
    | some e, _ => (s.counted, .error (stderr e))
    | none, none => (s.counted, .error s!"Failed to find logical volume \"{lv}\"")
    | none, some g => (s.counted.setGolden lv (some { g with readOnly := true }), .ok ())

/-! ## `ensure_cached` -/

abbrev ImageJob (α : Type) := Prog ImageOp ImageOp.Resp α

abbrev ImageFallible (α : Type) := ExceptT ImageError (Prog ImageOp ImageOp.Resp) α

namespace Images

def ask (o : ImageOp) : ImageJob o.Resp := Prog.perform o

def perform (o : ImageOp) : ImageFallible o.Resp := ExceptT.lift (ask o)

/-- `map_err(f)?`. -/
def orElse {ε α : Type} (f : ε → ImageError) (job : ImageJob (Except ε α)) : ImageFallible α := ExceptT.mk do
  match ← job with
  | .ok a => return .ok a
  | .error e => return .error (f e)

/-- `exists() && … && exists()`. -/
def allExist : List CachePath → ImageJob Bool
  | [] => return true
  | p :: ps => do
    let there : Bool ← ask (.fileExists p)
    if there then allExist ps else return false

def qcow2VirtualSizeGib (qcow2 : CachePath) : ImageFallible Nat := do
  let bytes : Nat ← orElse .imageInfo (ask (.qemuImgInfo qcow2))
  -- rounded up to whole GiB
  return (bytes + (2 ^ 30 - 1)) / 2 ^ 30

/-- The chunk loop of a blob stream, from the position reached. -/
def writeChunks (mediaType : String) (file : Nat) : Nat → List Bytes → ImageFallible Unit
  | _, [] => return ()
  | pos, chunk :: chunks => do
    orElse (fun e => .pullFailed (e.text s!"blob stream for '{mediaType}' stalled — no bytes in 60s" "reading blob: "))
      (ask .tryNext)
    perform (.writeAll file pos chunk)
    writeChunks mediaType file (pos + chunk.length) chunks

def decompressQcow2InPlace (src dst : CachePath) : ImageFallible Unit := do
  let conv : Option (Conversion Nat) ←
    orElse (fun what => .pullFailed s!"qemu-img spawn: {what}") (ask (.convertStart src dst))
  let success : Bool ← match conv with
    | some conv => perform (.convertEnd conv)
    | none => pure false
  if success then return ()
  else
    perform (.removeFile dst)
    throw (.pullFailed "qemu-img convert failed stripping qcow2 compression")

/-- One layer of `pull_oci`. -/
def pullLayer (w : ImageWorld) (imageRef : String) (manifest : Manifest) (mediaType : String) (dest : CachePath) :
    ImageFallible Unit := do
  let there : Bool ← perform (.fileExists dest)
  if there then return ()
  else
    match manifest.layers.find? fun l => l.mediaType = mediaType with
    | none => throw (.missingLayer mediaType)
    | some layer =>
      let tmp := { dest with ext := .partialFile }
      let out ← perform (.createFile tmp)
      let chunks : List Bytes ← orElse
        (fun e => .pullFailed
          (e.text s!"initiating blob pull for '{mediaType}': timed out after 30s" "fetching blob: "))
        (ask (.pullBlobStream imageRef layer))
      writeChunks mediaType out 0 chunks
      match verifyDigest mediaType layer.digest (w.sha256 chunks.flatten) with
      | .error e =>
        perform (.removeFile tmp)
        throw e
      | .ok () =>
        if mediaType = mediaTypeQcow2 then
          decompressQcow2InPlace tmp dest
          perform (.removeFile tmp)
        else orElse .io (ask (.rename tmp dest))

def pullLayers (w : ImageWorld) (imageRef : String) (manifest : Manifest) :
    List (String × CachePath) → ImageFallible Unit
  | [] => return ()
  | (mediaType, dest) :: targets => do
    pullLayer w imageRef manifest mediaType dest
    pullLayers w imageRef manifest targets

def pullOci (w : ImageWorld) (imageRef : String) (targets : List (String × CachePath)) : ImageFallible Unit := do
  match w.badReference imageRef with
  | some what => throw (.badReference imageRef what)
  | none =>
    let manifest : Manifest ← orElse
      (fun e => .pullFailed
        (e.text s!"fetching manifest for '{imageRef}': timed out after 30s" "fetching manifest: "))
      (ask (.pullImageManifest imageRef))
    pullLayers w imageRef manifest targets

/-- `?` on an lvm2 command. -/
def lvm {α : Type} (line : String) (job : ImageJob (Except String α)) : ImageFallible α :=
  orElse (fun stderr => .lvm (.command line stderr)) job

/-- Is the volume there, and if so, is it read-only? -/
def lvAttr (w : ImageWorld) (lv : String) : ImageFallible (Option Bool) :=
  lvm s!"lvs --noheadings -o lv_attr -S lv_name={lv} {w.rootfsVg}" (ask (.lvAttr lv))

/-- `ensure_image_lv` once the permit is held and the volume, if any, is one to be made anew. -/
def populate (w : ImageWorld) (lv : String) (src : CachePath) (virtualSizeGib : Nat) : ImageFallible Unit := do
  lvm s!"lvcreate --virtualsize {virtualSizeGib}G --thin --name {lv}" (ask (.lvcreateThin lv virtualSizeGib))
  let conv : Option (Conversion String) ←
    orElse (fun what => .imageConvert s!"qemu-img spawn: {what}") (ask (.fillStart src lv))
  let success : Bool ← match conv with
    | some conv => perform (.fillEnd conv)
    | none => pure false
  if success then lvm s!"lvchange --permission r {w.rootfsVg}/{lv}" (ask (.lvchangeReadOnly lv))
  else
    let _ ← perform (.lvremove lv)
    throw (.imageConvert s!"qemu-img failed converting {src.text w.imagesDir} to {lvPath w.rootfsVg lv}")

/-- The part of `ensure_image_lv` under the permit: the volume is looked at once more. -/
def recreate (w : ImageWorld) (lv : String) (src : CachePath) (virtualSizeGib : Nat) : ImageFallible Unit := do
  match ← lvAttr w lv with
  | some true => return ()
  | some false =>
    lvm s!"lvremove -f {w.rootfsVg}/{lv}" (ask (.lvremove lv))
    populate w lv src virtualSizeGib
  | none => populate w lv src virtualSizeGib

/-- A golden volume is made once; that it is read-only marks it as populated. -/
def ensureImageLv (w : ImageWorld) (imageHash : String) (src : CachePath) (virtualSizeGib : Nat) :
    ImageFallible Unit := do
  match ← lvAttr w (imageLvName imageHash) with
  | some true => return ()
  | _ =>
    let taken : Bool ← perform .acquire
    if taken then
      let result ← ExceptT.lift (recreate w (imageLvName imageHash) src virtualSizeGib).run
      perform .release
      ExceptT.mk (return result)
    else throw (ImageError.lvm (.busy "rootfs"))

/-- The three files of an image, in the order they are pulled. -/
def targets (imageHash : String) : List (String × CachePath) :=
  [(mediaTypeQcow2, ⟨imageHash, .qcow2⟩), (mediaTypeKernel, ⟨imageHash, .vmlinuz⟩),
    (mediaTypeInitrd, ⟨imageHash, .initrd⟩)]

def cached (w : ImageWorld) (imageRef : String) (virtualSizeGib : Nat) : CachedImage where
  imageHash := imageRefToPrefix imageRef
  kernel := CachePath.text w.imagesDir ⟨imageRefToPrefix imageRef, .vmlinuz⟩
  initrd := CachePath.text w.imagesDir ⟨imageRefToPrefix imageRef, .initrd⟩
  virtualSizeGib := virtualSizeGib

/-- `ensure_cached` with the lock held. -/
def ensureLocked (w : ImageWorld) (imageRef : String) : ImageFallible CachedImage := do
  let imageHash := imageRefToPrefix imageRef
  if !(← ExceptT.lift (allExist ((targets imageHash).map (·.2)))) then pullOci w imageRef (targets imageHash)
  let virtualSizeGib ← qcow2VirtualSizeGib ⟨imageHash, .qcow2⟩
  ensureImageLv w imageHash ⟨imageHash, .qcow2⟩ virtualSizeGib
  return cached w imageRef virtualSizeGib

/-- The test of the fast path: the files, then the golden volume. -/
def ready (imageHash : String) : ImageJob Bool := do
  if ← allExist ((targets imageHash).map (·.2)) then ask (.lvPathExists (imageLvName imageHash))
  else return false

def ensureCached (w : ImageWorld) (call : Nat) (imageRef : String) : ImageFallible CachedImage := do
  let imageHash := imageRefToPrefix imageRef
  if ← ExceptT.lift (ready imageHash) then
    let virtualSizeGib ← qcow2VirtualSizeGib ⟨imageHash, .qcow2⟩
    return cached w imageRef virtualSizeGib
  else
    perform (.lock call imageRef)
    let result ← ExceptT.lift (ensureLocked w imageRef).run
    perform (.unlock imageRef)
    ExceptT.mk (return result)

/-! ## Calls at the same time -/

/-- A call of `ensure_cached`. -/
structure Call where
  id : Nat
  imageRef : String
  deriving DecidableEq, Repr

/-- A restart of the agent frees its locks and permits, and nothing else. -/
def machine (w : ImageWorld) : Machine Call ImageOp ImageOp.Resp ImageStore (Except ImageError CachedImage) where
  exec := ImageOp.exec w
  body call := (ensureCached w call.id call.imageRef).run
  fresh := fun started call => call.id ∉ started.map (·.id)
  reboot := fun s => { s with locks := fun _ => none, permit := false }

abbrev Pool := Config Call ImageOp ImageOp.Resp ImageStore (Except ImageError CachedImage)

/-- A lock that is taken holds its next taker up; calls are not dropped. -/
def held (c : Pool) (e : Event Call) : Bool :=
  match e with
  | .drop _ => true
  | _ =>
    match c.nextOp e with
    | some (_, .lock _ imageRef) => (c.shared.locks imageRef).isSome
    | _ => false

def step (w : ImageWorld) (c : Pool) (e : Event Call) : Option Pool :=
  if held c e then none else (machine w).step c e

/-- Nothing is cached, nobody calls. -/
def initial : Pool := ⟨{}, [], []⟩

theorem step_cases {w : ImageWorld} {c c' : Pool} {e : Event Call} (h : step w c e = some c') :
    held c e = false ∧ (machine w).Step c e c' := by
  unfold step at h
  split at h
  · cases h
  · exact ⟨Bool.eq_false_iff.mpr ‹_›, Machine.step_cases h⟩

/-! ## What a call answers -/

/-- Programs that run what they like. -/
def unruly : Protocol ImageOp ImageOp.Resp Unit where
  allows _ _ := True
  next _ _ _ := ()

/-- Every answer of the program is one of `Q`. -/
abbrev Answers {α : Type} (Q : α → Prop) (p : ImageJob α) : Prop := unruly.Follows (fun _ a => Q a) p ()

theorem answers_anything {α : Type} (p : ImageJob α) : Answers (fun _ => True) p := by
  induction p with
  | ret a => trivial
  | call o k ih => exact ⟨trivial, fun r => ih r⟩

/-- The answer of a call, if it is one, is the image under the reference's own key. -/
def Keyed (w : ImageWorld) (imageRef : String) (r : Except ImageError CachedImage) : Prop :=
  ∀ img, r = .ok img → ∃ virtualSizeGib, img = cached w imageRef virtualSizeGib

section Keyed

variable {w : ImageWorld} {imageRef : String}

theorem keyed_error {e : ImageError} : Keyed w imageRef (.error e) := nofun

/-- After anything at all, with its error passed on. -/
theorem answers_after {α : Type} {p : ImageFallible α} {f : α → ImageFallible CachedImage}
    (hf : ∀ a, Answers (Keyed w imageRef) (f a).run) : Answers (Keyed w imageRef) (p >>= f).run :=
  Follows.exceptBind (answers_anything p.run) (fun _ a _ => hf a) fun _ _ _ => keyed_error

theorem answers_cached {n : Nat} : Answers (Keyed w imageRef) (pure (cached w imageRef n) : ImageFallible _).run := by
  intro img himg
  cases himg
  exact ⟨n, rfl⟩

theorem answers_ensureLocked : Answers (Keyed w imageRef) (ensureLocked w imageRef).run := by
  have hrest : Answers (Keyed w imageRef) (ExceptT.run do
      let virtualSizeGib ← qcow2VirtualSizeGib ⟨imageRefToPrefix imageRef, .qcow2⟩
      ensureImageLv w (imageRefToPrefix imageRef) ⟨imageRefToPrefix imageRef, .qcow2⟩ virtualSizeGib
      return cached w imageRef virtualSizeGib) :=
    answers_after fun n => answers_after fun _ => answers_cached
  refine answers_after fun there => ?_
  cases there with
  | true => exact hrest
  | false => exact answers_after fun _ => hrest

theorem answers_ensureCached {call : Nat} : Answers (Keyed w imageRef) (ensureCached w call imageRef).run := by
  refine answers_after fun fast => ?_
  cases fast with
  | true => exact answers_after fun n => answers_cached
  | false =>
    refine answers_after fun _ => ?_
    have hlocked : unruly.Follows (fun _ r => ∀ result, r = .ok result → Keyed w imageRef result)
        (ExceptT.lift (ensureLocked w imageRef).run : ImageFallible _).run () := by
      refine Follows.exceptLift (answers_ensureLocked.mono fun _ result hresult _ heq => ?_)
      cases heq
      exact hresult
    refine Follows.exceptBind hlocked (fun _ result hresult => ?_) fun _ _ _ => keyed_error
    exact answers_after fun _ => hresult result rfl

/-- A call that has returned an image has returned the one under its reference's key. -/
theorem returned_of_run {c₀ c : Pool} {es : List (Event Call)} (hstart : c₀.tasks = [])
    (hrun : run (step w) c₀ es = some c) {task : Task Call ImageOp ImageOp.Resp (Except ImageError CachedImage)}
    (htask : task ∈ c.tasks) {img : CachedImage} (hret : task.prog = .ret (.ok img)) :
    ∃ virtualSizeGib, img = cached w task.tag.imageRef virtualSizeGib := by
  have hall : ∀ task ∈ c.tasks, Answers (Keyed w task.tag.imageRef) task.prog := by
    refine run_invariant (C := fun _ _ => True)
      (J := fun c : Pool => ∀ task ∈ c.tasks, Answers (Keyed w task.tag.imageRef) task.prog)
      (fun hc _ hstep => ?_) ?_ (along_of_forall fun _ _ => trivial) hrun
    · exact Machine.forall_tasks_step (fun _ => answers_ensureCached) (fun h => h.2) hc (step_cases hstep).2
    · intro task htask
      rw [hstart] at htask
      cases htask
  have h := hall task htask
  rw [hret] at h
  exact h img rfl

end Keyed

/-! ## Two references, one key -/

/-- The characters that the key does not tell apart. -/
def confused : List Char := ['/', ':', '.', '_']

/-- The references agree character by character, up to the ones that the key does not tell apart. -/
def Alike (a b : String) : Prop :=
  List.Forall₂ (fun x y => x = y ∨ (x ∈ confused ∧ y ∈ confused)) a.toList b.toList

theorem rewritten_eq_iff {x y : Char} :
    (if x = '/' ∨ x = ':' ∨ x = '.' then '_' else x) = (if y = '/' ∨ y = ':' ∨ y = '.' then '_' else y) ↔
      x = y ∨ (x ∈ confused ∧ y ∈ confused) := by
  simp only [confused, mem_cons, not_mem_nil, or_false]
  split <;> split
  all_goals grind

theorem imageRefToPrefix_eq_iff {a b : String} : imageRefToPrefix a = imageRefToPrefix b ↔ Alike a b := by
  unfold imageRefToPrefix Alike
  rw [String.ofList_inj, ← List.forall₂_eq_eq_eq, List.forall₂_map_left_iff, List.forall₂_map_right_iff]
  simp only [rewritten_eq_iff]

/-- The path of a file tells its stem. -/
theorem text_injective {imagesDir p q : String} {ext : Ext}
    (h : CachePath.text imagesDir ⟨p, ext⟩ = CachePath.text imagesDir ⟨q, ext⟩) : p = q := by
  have hlist := congrArg String.toList h
  simpa [CachePath.text, toString, String.toList_inj] using hlist

theorem imageLvName_injective {p q : String} (h : imageLvName p = imageLvName q) : p = q := by
  have hlist := congrArg String.toList h
  simpa [imageLvName, String.toList_inj] using hlist

/-- A call for the reference has returned the image. -/
def Returned (c : Pool) (imageRef : String) (img : CachedImage) : Prop :=
  ∃ task ∈ c.tasks, task.tag.imageRef = imageRef ∧ task.prog = .ret (.ok img)

/-- Calls with different references have returned different paths and different golden volumes. -/
def Apart (c : Pool) : Prop :=
  ∀ a b img img', Returned c a img → Returned c b img' → a ≠ b →
    img.kernel ≠ img'.kernel ∧ img.initrd ≠ img'.initrd ∧ imageLvName img.imageHash ≠ imageLvName img'.imageHash

/-- No two different references among those that were answered are alike. -/
def Unlike (c : Pool) : Prop := ∀ a b img img', Returned c a img → Returned c b img' → Alike a b → a = b

section Apart

variable {w : ImageWorld} {c₀ c : Pool} {es : List (Event Call)} {a b : String} {img img' : CachedImage}

theorem keyed_of_returned (hstart : c₀.tasks = []) (hrun : run (step w) c₀ es = some c) (h : Returned c a img) :
    ∃ n, img = cached w a n := by
  obtain ⟨task, htask, rfl, hret⟩ := h
  exact returned_of_run hstart hrun htask hret

/-- Two answers with one golden volume are to references that are alike. -/
theorem alike_of_returned (hstart : c₀.tasks = []) (hrun : run (step w) c₀ es = some c) (ha : Returned c a img)
    (hb : Returned c b img') (h : imageLvName img.imageHash = imageLvName img'.imageHash) : Alike a b := by
  obtain ⟨n, rfl⟩ := keyed_of_returned hstart hrun ha
  obtain ⟨n', rfl⟩ := keyed_of_returned hstart hrun hb
  exact imageRefToPrefix_eq_iff.mp (imageLvName_injective h)

/-- **A VM's root disk comes from its own reference.** `createVmRootfs` snapshots the golden volume of the image it is
    given; where no two references are alike, this volume was the answer to no other reference. -/
theorem snapshot_of_own_reference (hstart : c₀.tasks = []) (hrun : run (step w) c₀ es = some c) (hunlike : Unlike c)
    (ha : Returned c a img) (hb : Returned c b img') (h : imageLvName img.imageHash = imageLvName img'.imageHash) :
    a = b :=
  hunlike a b img img' ha hb (alike_of_returned hstart hrun ha hb h)

end Apart

/-- **Images are kept apart** in a run of calls exactly if no two different references among those that were
    answered are alike. -/
theorem images_apart_iff {w : ImageWorld} {c₀ c : Pool} {es : List (Event Call)} (hstart : c₀.tasks = [])
    (hrun : run (step w) c₀ es = some c) : Apart c ↔ Unlike c := by
  constructor
  · intro hapart a b img img' ha hb halike
    obtain ⟨n, hn⟩ := keyed_of_returned hstart hrun ha
    obtain ⟨n', hn'⟩ := keyed_of_returned hstart hrun hb
    by_contra hne
    -- the golden volumes are the same
    have hlv := (hapart a b img img' ha hb hne).2.2
    rw [hn, hn'] at hlv
    exact hlv (congrArg imageLvName (imageRefToPrefix_eq_iff.mpr halike))
  · intro hunlike a b img img' ha hb hne
    obtain ⟨n, hn⟩ := keyed_of_returned hstart hrun ha
    obtain ⟨n', hn'⟩ := keyed_of_returned hstart hrun hb
    have hkey : imageRefToPrefix a ≠ imageRefToPrefix b := fun h =>
      hne (hunlike a b img img' ha hb (imageRefToPrefix_eq_iff.mp h))
    rw [hn, hn']
    exact ⟨fun h => hkey (text_injective h), fun h => hkey (text_injective h),
      fun h => hkey (imageLvName_injective h)⟩

/-! ## Two tags of one repository -/

/-- The layer of a kind, whose one chunk differs from reference to reference. -/
def toyBlob (imageRef mediaType : String) : Bytes :=
  [if imageRef = "node:v1.0" then 1 else 2, if mediaType = mediaTypeQcow2 then 3 else 4]

/-- A registry with two tags, and tools that never fail. -/
def toyWorld : ImageWorld where
  imagesDir := "images"
  rootfsVg := "rootvg"
  badReference := fun _ => none
  manifest := fun imageRef =>
    { layers := [mediaTypeQcow2, mediaTypeKernel, mediaTypeInitrd].map fun mediaType =>
        ⟨mediaType, "sha256:" ++ hexLower (toyBlob imageRef mediaType)⟩ }
  stream := fun _ imageRef layer => [toyBlob imageRef layer.mediaType]
  sha256 := id
  decompress := fun bytes => 5 :: bytes
  raw := fun bytes => 6 :: bytes
  virtualSize := fun _ => .ok (2 ^ 30)
  fails := fun _ => none

/-- References of one lower-case component and a tag. -/
def tagReference (imageRef : String) : Bool :=
  match splitOnce ':' imageRef with
  | none => false
  | some (name, tag) =>
    !name.isEmpty && name.toList.all (fun c => c.isLower || c.isDigit) && !tag.isEmpty &&
      decide (tag.length ≤ 128) && tag.toList.all (fun c => c.isAlphanum || c = '_' || c = '.' || c = '-') &&
      tag.toList.head?.all fun c => c.isAlphanum || c = '_'

/-- Two calls, one after the other; the second one takes the given number of steps. -/
def twoCalls (a b : String) (n : Nat) : List (Event Call) :=
  .spawn ⟨0, a⟩ :: List.replicate 34 (.step 0) ++ .spawn ⟨1, b⟩ :: List.replicate n (.step 1)

def afterTwo (a b : String) (n : Nat) : Pool := after (step toyWorld) initial (twoCalls a b n)

/-- The image a call has returned. -/
def answerOf : ImageJob (Except ImageError CachedImage) → Option CachedImage
  | .ret (.ok img) => some img
  | _ => none

theorem eq_of_answerOf {p : ImageJob (Except ImageError CachedImage)} {img : CachedImage} (h : answerOf p = some img) :
    p = .ret (.ok img) := by
  unfold answerOf at h
  split at h <;> cases h
  rfl

theorem returned_of_mem {c : Pool} {imageRef : String} {img : CachedImage}
    (h : (imageRef, some img) ∈ c.tasks.map fun task => (task.tag.imageRef, answerOf task.prog)) :
    Returned c imageRef img := by
  obtain ⟨task, htask, heq⟩ := mem_map.mp h
  exact ⟨task, htask, congrArg Prod.fst heq, eq_of_answerOf (congrArg Prod.snd heq)⟩

theorem images_apart_iff_toy :
    initial.tasks = [] ∧
      run (step toyWorld) initial (twoCalls "node:v1.0" "node:v2.0" 34) =
        some (afterTwo "node:v1.0" "node:v2.0" 34) ∧
      (Apart (afterTwo "node:v1.0" "node:v2.0" 34) ↔ Unlike (afterTwo "node:v1.0" "node:v2.0" 34)) := by
  have htaken : (run (step toyWorld) initial (twoCalls "node:v1.0" "node:v2.0" 34)).isSome = true := by
    decide +kernel
  have hrun := run_eq_after htaken
  exact ⟨rfl, hrun, images_apart_iff rfl hrun⟩

/-- The second call is answered with the image of the first one, which has another tag. -/
theorem images_not_apart : ∃ w c₀ es c a b, c₀.tasks = [] ∧ run (step w) c₀ es = some c ∧
    tagReference a = true ∧ tagReference b = true ∧ a ≠ b ∧
    (∃ img, Returned c a img ∧ Returned c b img) ∧ ¬ Apart c := by
  have htaken : (run (step toyWorld) initial (twoCalls "node:v1.0" "node:v1_0" 5)).isSome = true := by
    decide +kernel
  have hfirst : Returned (afterTwo "node:v1.0" "node:v1_0" 5) "node:v1.0" (cached toyWorld "node:v1.0" 1) :=
    returned_of_mem (by decide +kernel)
  have hsecond : Returned (afterTwo "node:v1.0" "node:v1_0" 5) "node:v1_0" (cached toyWorld "node:v1.0" 1) :=
    returned_of_mem (by decide +kernel)
  have hne : "node:v1.0" ≠ "node:v1_0" := by decide
  exact ⟨toyWorld, initial, _, _, "node:v1.0", "node:v1_0", rfl, run_eq_after htaken, by decide +kernel,
    by decide +kernel, hne, ⟨_, hfirst, hsecond⟩, fun hapart => (hapart _ _ _ _ hfirst hsecond hne).1 rfl⟩

end Images

end BasisCell.Agent
