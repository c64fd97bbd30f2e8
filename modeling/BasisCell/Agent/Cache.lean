import BasisCell.Agent.Images

/-!
# `BasisCell.Agent.Cache` — what a cached image is worth

An image that `ensure_cached` returned is complete if its files are what the manifest's layers hash to, the qcow2
rewritten by `qemu-img`, and its golden volume holds the whole of it and is read-only. Three things can break it:
a restart of the agent while `qemu-img` writes the qcow2 in place, after which nobody tells the torn file from a
good one; a call whose fast path finds a golden volume that is still being filled; and two references with one
key, which share every file and no lock. In every run without them each image that was returned is complete, and
stays so (`cached_images_complete`), with any number of calls at once, any failing request or command and any
other restart. With either of the first two it need not be (`cached_image_torn`).
-/

namespace BasisCell.Agent

open List Transition
open Function (update_of_ne update_self update)

/-- The layer that a file of the cache is made from. -/
def Ext.mediaType : Ext → String
  | qcow2 => mediaTypeQcow2
  | vmlinuz => mediaTypeKernel
  | initrd => mediaTypeInitrd
  | partialFile => ""

/-- The files that stay. -/
def Ext.kept : Ext → Bool
  | partialFile => false
  | _ => true

namespace Images

open Conc Conc.Protocol Storage

/-- The key of the image of a call. -/
abbrev Call.key (call : Call) : String := imageRefToPrefix call.imageRef

/-- Its golden volume. -/
abbrev Call.lv (call : Call) : String := imageLvName call.key

/-! ## Complete images -/

/-- The bytes hash to the digest of the manifest's layer. -/
def Verified (w : ImageWorld) (manifest : Manifest) (ext : Ext) (blob : Bytes) : Prop :=
  ∃ layer, manifest.layers.find? (fun l => l.mediaType = ext.mediaType) = some layer ∧
    verifyDigest ext.mediaType layer.digest (w.sha256 blob) = .ok ()

/-- What becomes of a layer: the qcow2 is rewritten, the others stay as they are. -/
def ImageWorld.keeps (w : ImageWorld) (blob : Bytes) : Ext → Bytes
  | .qcow2 => w.decompress blob
  | _ => blob

/-- The bytes are made from the reference's own layer. -/
def Genuine (w : ImageWorld) (imageRef : String) (ext : Ext) (bytes : Bytes) : Prop :=
  ∃ blob, Verified w (w.manifest imageRef) ext blob ∧ bytes = ImageWorld.keeps w blob ext

/-- The image is complete: what is at its paths is made from the reference's layers, and the golden volume is
    read-only and holds the whole qcow2. -/
structure Complete (w : ImageWorld) (imageRef : String) (img : CachedImage) (s : ImageStore) : Prop where
  kernel : ∃ p bytes, img.kernel = CachePath.text w.imagesDir p ∧ s.disk.look p = some (.whole bytes) ∧
    Genuine w imageRef .vmlinuz bytes
  initrd : ∃ p bytes, img.initrd = CachePath.text w.imagesDir p ∧ s.disk.look p = some (.whole bytes) ∧
    Genuine w imageRef .initrd bytes
  golden : ∃ bytes, s.disk.look ⟨img.imageHash, .qcow2⟩ = some (.whole bytes) ∧ Genuine w imageRef .qcow2 bytes ∧
    s.golden (imageLvName img.imageHash) = some ⟨true, .whole (w.raw bytes)⟩

/-! ## How far a call has come -/

inductive Stage where
  /-- Without the lock, and with nothing known. -/
  | outside
  /-- The golden volume is ready. -/
  | ready
  /-- With the lock; the manifest, if it has been fetched, and the files that have been seen since. -/
  | holding (manifest : Option Manifest) (seen : List Ext)
  /-- This file is not there. -/
  | missing (manifest : Manifest) (seen : List Ext) (ext : Ext)
  /-- It is being streamed into the side file. -/
  | streaming (manifest : Manifest) (seen : List Ext) (ext : Ext) (file : Nat) (got : Bytes)
  /-- The side file is being converted into the qcow2. -/
  | converting (manifest : Manifest) (seen : List Ext) (got : Bytes) (conv : Conversion Nat)
  /-- The conversion has failed, and its target is still there. -/
  | broken
  /-- Every file is there. -/
  | full
  /-- The golden volume, if there is one, is not read-only. -/
  | writable
  | filling (conv : Conversion String)
  | filled
  /-- The golden volume is ready, and the lock still held. -/
  | stored
  | failing

/-- Does the call hold its lock? -/
def Stage.locked : Stage → Bool
  | outside | ready => false
  | _ => true

/-- May the call give up its lock here? Not while the qcow2 is torn. -/
def Stage.settled : Stage → Bool
  | outside | ready | converting _ _ _ _ | broken => false
  | _ => true

/-- With the golden volume to be made. -/
def Stage.gated : Stage → Bool
  | writable | stored => true
  | _ => false

/-- All the files have been seen. -/
def Seen (seen : List Ext) : Prop := ∀ ext : Ext, ext.kept = true → ext ∈ seen

/-- Which operations a call may run where. -/
inductive Allows (w : ImageWorld) (call : Call) : Stage → ImageOp → Prop
  | peek {p} : Allows w call .outside (.fileExists p)
  | golden : Allows w call .outside (.lvPathExists (imageLvName (imageRefToPrefix call.imageRef)))
  | lock : Allows w call .outside (.lock call.id call.imageRef)
  | size {p} : Allows w call .ready (.qemuImgInfo p)
  | check {m seen ext} (hkept : ext.kept = true) :
      Allows w call (.holding m seen) (.fileExists ⟨imageRefToPrefix call.imageRef, ext⟩)
  | manifest {m seen} : Allows w call (.holding m seen) (.pullImageManifest call.imageRef)
  | cleanUp {m seen} : Allows w call (.holding m seen) (.removeFile ⟨imageRefToPrefix call.imageRef, .partialFile⟩)
  | info {m seen p} (hseen : Seen seen) : Allows w call (.holding m seen) (.qemuImgInfo p)
  | create {m seen ext} :
      Allows w call (.missing m seen ext) (.createFile ⟨imageRefToPrefix call.imageRef, .partialFile⟩)
  | stream {m seen ext file got layer} :
      Allows w call (.streaming m seen ext file got) (.pullBlobStream call.imageRef layer)
  | chunk {m seen ext file got} : Allows w call (.streaming m seen ext file got) .tryNext
  | write {m seen ext file got chunk} :
      Allows w call (.streaming m seen ext file got) (.writeAll file got.length chunk)
  | discard {m seen ext file got} :
      Allows w call (.streaming m seen ext file got) (.removeFile ⟨imageRefToPrefix call.imageRef, .partialFile⟩)
  | rename {m seen ext file got} (hext : ext ≠ .qcow2) (hverified : Verified w m ext got) :
      Allows w call (.streaming m seen ext file got)
        (.rename ⟨imageRefToPrefix call.imageRef, .partialFile⟩ ⟨imageRefToPrefix call.imageRef, ext⟩)
  | convert {m seen file got} (hverified : Verified w m .qcow2 got) :
      Allows w call (.streaming m seen .qcow2 file got)
        (.convertStart ⟨imageRefToPrefix call.imageRef, .partialFile⟩ ⟨imageRefToPrefix call.imageRef, .qcow2⟩)
  | converted {m seen got conv} : Allows w call (.converting m seen got conv) (.convertEnd conv)
  | unmake : Allows w call .broken (.removeFile ⟨imageRefToPrefix call.imageRef, .qcow2⟩)
  | attr {g} (hg : g = .full ∨ g = .writable) :
      Allows w call g (.lvAttr (imageLvName (imageRefToPrefix call.imageRef)))
  | acquire : Allows w call .writable .acquire
  | release {g} (hg : g.gated = true) : Allows w call g .release
  | lvremove : Allows w call .writable (.lvremove (imageLvName (imageRefToPrefix call.imageRef)))
  | lvcreate {sizeGib} : Allows w call .writable (.lvcreateThin (imageLvName (imageRefToPrefix call.imageRef)) sizeGib)
  | fill : Allows w call .writable
      (.fillStart ⟨imageRefToPrefix call.imageRef, .qcow2⟩ (imageLvName (imageRefToPrefix call.imageRef)))
  | filled {conv} : Allows w call (.filling conv) (.fillEnd conv)
  | seal : Allows w call .filled (.lvchangeReadOnly (imageLvName (imageRefToPrefix call.imageRef)))
  | unlock {g} (hg : g.settled = true) : Allows w call g (.unlock call.imageRef)

/-- Where a response takes a call. -/
def nextStage : Stage → (o : ImageOp) → o.Resp → Stage
  | .outside, .lvPathExists _, true => .ready
  | .outside, .lock _ _, _ => .holding none []
  | .holding m seen, .fileExists p, true => .holding m (p.ext :: seen)
  | .holding (some m) seen, .fileExists p, false => .missing m seen p.ext
  | .holding _ _, .pullImageManifest _, .ok m => .holding (some m) []
  | .holding _ _, .qemuImgInfo _, .ok _ => .full
  | .missing m seen ext, .createFile _, file => .streaming m seen ext file []
  | .streaming m seen ext file got, .writeAll _ _ chunk, _ => .streaming m seen ext file (got ++ chunk)
  | .streaming _ _ _ _ _, .removeFile _, _ => .failing
  | .streaming m seen ext _ _, .rename _ _, .ok _ => .holding (some m) (ext :: seen)
  | .streaming m seen _ _ got, .convertStart _ _, .ok (some conv) => .converting m seen got conv
  | .streaming _ _ _ _ _, .convertStart _ _, .ok none => .broken
  | .converting m seen _ _, .convertEnd _, true => .holding (some m) (.qcow2 :: seen)
  | .converting _ _ _ _, .convertEnd _, false => .broken
  | .broken, .removeFile _, _ => .failing
  | .full, .lvAttr _, .ok (some true) => .stored
  | .full, .lvAttr _, .ok _ => .writable
  | .writable, .lvAttr _, .ok (some true) => .stored
  | .writable, .fillStart _ _, .ok (some conv) => .filling conv
  | .filling _, .fillEnd _, true => .filled
  | .filling _, .fillEnd _, false => .writable
  | .filled, .lvchangeReadOnly _, .ok _ => .stored
  | .filled, .lvchangeReadOnly _, .error _ => .writable
  | .stored, .unlock _, _ => .ready
  | .ready, _, _ => .ready
  | _, .unlock _, _ => .outside
  | g, _, _ => g

def protocol (w : ImageWorld) (call : Call) : Protocol ImageOp ImageOp.Resp Stage := ⟨Allows w call, nextStage⟩

/-- A call returns without its lock. If it returns an image, that is the one under its key, and the golden volume
    is ready. -/
def ends (w : ImageWorld) (call : Call) (g : Stage) (r : Except ImageError CachedImage) : Prop :=
  g.locked = false ∧ ∀ img, r = .ok img → g = .ready ∧ ∃ virtualSizeGib, img = cached w call.imageRef virtualSizeGib

def discipline (w : ImageWorld) : Discipline Call ImageOp ImageOp.Resp (Except ImageError CachedImage) Stage where
  protocol := protocol w
  start _ := .outside
  ends := ends w

/-! ## The text of `ensure_cached` -/

section Text

variable {w : ImageWorld} {call : Call} {α β : Type} {E : Stage → Prop} {g : Stage}

/-- A fallible segment starts at `g`; `Q` is where it may succeed, `E` where it may fail. -/
def Leads (w : ImageWorld) (call : Call) (E : Stage → Prop) (q : ImageFallible α) (g : Stage)
    (Q : Stage → α → Prop) : Prop :=
  (protocol w call).Follows (fun g' r => match r with
    | .ok a => Q g' a
    | .error _ => E g') q.run g

variable {f : α → ImageFallible β} {Q : Stage → α → Prop} {R : Stage → β → Prop} {src : CachePath}
    {virtualSizeGib : Nat}

theorem Leads.bind {q : ImageFallible α}
    (hq : Leads w call E q g Q) (hf : ∀ g' a, Q g' a → Leads w call E (f a) g' R) : Leads w call E (q >>= f) g R :=
  Follows.exceptBind hq (fun g' a h => hf g' a h) fun _ _ h => h

/-- A segment whose result tells the stage it ends in. -/
theorem Leads.andThen {q : ImageFallible α} (next : α → Stage)
    (hq : Leads w call E q g fun g' a => g' = next a) (hf : ∀ a, Leads w call E (f a) (next a) R) :
    Leads w call E (q >>= f) g R :=
  hq.bind fun _ a hg' => hg' ▸ hf a

theorem leads_pure {a : α} (h : Q g a) : Leads w call E (pure a) g Q := h

theorem leads_throw {e : ImageError} (h : E g) : Leads w call E (throw e) g Q := h

theorem leads_lift {job : ImageJob α} (h : (protocol w call).Follows Q job g) :
    Leads w call E (ExceptT.lift job) g Q :=
  Follows.exceptLift h

theorem leads_ite {b : Prop} [Decidable b] {q q' : ImageFallible α}
    (hq : b → Leads w call E q g Q) (hq' : ¬ b → Leads w call E q' g Q) :
    Leads w call E (if b then q else q') g Q := by
  split
  · exact hq ‹b›
  · exact hq' ‹¬ b›

theorem leads_perform {o : ImageOp} {Q : Stage → o.Resp → Prop} (hallow : Allows w call g o)
    (hQ : ∀ r, Q (nextStage g o r) r) : Leads w call E (perform o) g Q :=
  leads_lift ⟨hallow, hQ⟩

theorem leads_orElse {ε : Type} {job : ImageJob (Except ε α)} {f : ε → ImageError}
    (h : (protocol w call).Follows (fun g' r => match r with
      | .ok a => Q g' a
      | .error _ => E g') job g) : Leads w call E (orElse f job) g Q := by
  refine Follows.bind h fun g' r hr => ?_
  cases r with
  | ok a | error e => exact hr

/-- Where an error leaves a call that holds its lock. -/
def Settled (g : Stage) : Prop := g.settled = true

theorem follows_allExist (ps : List CachePath) :
    (protocol w call).Follows (fun g' _ => g' = .outside) (allExist ps) .outside := by
  induction ps with
  | nil => exact rfl
  | cons p ps ih =>
    refine ⟨.peek, fun there => ?_⟩
    cases there with
    | true => exact ih
    | false => exact rfl

theorem follows_ready : (protocol w call).Follows (fun g' fast => g' = if fast then .ready else .outside)
    (Images.ready call.key) .outside := by
  refine Follows.bind (follows_allExist _) fun g' there hg' => ?_
  subst hg'
  cases there with
  | true =>
    refine ⟨.golden, fun there => ?_⟩
    cases there <;> exact rfl
  | false => exact rfl

/-- With the lock held, the files are seen one after the other, up to the first that is not there. -/
theorem follows_allExist_locked (exts : List Ext) (hkept : ∀ ext ∈ exts, ext.kept = true) (seen : List Ext) :
    (protocol w call).Follows (fun g' there => ∃ seen', g' = .holding none seen' ∧ (∀ ext ∈ seen, ext ∈ seen') ∧
        (there = true → ∀ ext ∈ exts, ext ∈ seen'))
      (allExist (exts.map fun ext => ⟨call.key, ext⟩)) (.holding none seen) := by
  induction exts generalizing seen with
  | nil => exact ⟨seen, rfl, fun _ h => h, nofun⟩
  | cons ext exts ih =>
    refine ⟨.check (hkept ext mem_cons_self), fun there => ?_⟩
    cases there with
    | true =>
      refine (ih (fun e he => hkept e (mem_cons_of_mem _ he)) (ext :: seen)).mono ?_
      rintro g' there ⟨seen', rfl, hsub, hall⟩
      refine ⟨seen', rfl, fun e he => hsub e (mem_cons_of_mem _ he), fun hthere e he => ?_⟩
      rcases mem_cons.mp he with rfl | he
      · exact hsub e mem_cons_self
      · exact hall hthere e he
    | false => exact ⟨seen, rfl, fun _ h => h, nofun⟩

theorem leads_writeChunks {m : Manifest} {seen : List Ext} {ext : Ext} {mediaType : String} {file : Nat}
    (chunks : List Bytes) (got : Bytes) :
    Leads w call Settled (writeChunks mediaType file got.length chunks) (.streaming m seen ext file got)
      fun g' _ => g' = .streaming m seen ext file (got ++ chunks.flatten) := by
  induction chunks generalizing got with
  | nil =>
    refine leads_pure ?_
    simp
  | cons chunk chunks ih =>
    refine Leads.andThen (fun _ => .streaming m seen ext file got) (leads_orElse ⟨.chunk, fun r => ?_⟩) fun _ => ?_
    · cases r <;> exact rfl
    · refine Leads.andThen (fun _ => .streaming m seen ext file (got ++ chunk)) (leads_perform .write fun _ => rfl)
        fun _ => ?_
      have h := ih (got ++ chunk)
      simp only [length_append, append_assoc] at h
      exact h

theorem leads_decompress {m : Manifest} {seen : List Ext} {file : Nat} {got : Bytes}
    (hverified : Verified w m .qcow2 got) :
    Leads w call Settled
      (decompressQcow2InPlace ⟨call.key, .partialFile⟩ ⟨call.key, .qcow2⟩)
      (.streaming m seen .qcow2 file got) fun g' _ => g' = .holding (some m) (.qcow2 :: seen) := by
  have hbroken : Leads w call Settled (do
      perform (.removeFile ⟨call.key, .qcow2⟩)
      throw (.pullFailed "qemu-img convert failed stripping qcow2 compression")) .broken
      fun g' (_ : Unit) => g' = .holding (some m) (.qcow2 :: seen) := by
    exact Leads.andThen (fun _ => .failing) (leads_perform .unmake fun _ => rfl) fun _ => leads_throw rfl
  refine Leads.andThen (fun conv => conv.elim .broken (.converting m seen got))
    (leads_orElse ⟨.convert hverified, fun r => ?_⟩) fun conv => ?_
  · rcases r with e | (_ | conv) <;> exact rfl
  · cases conv with
    | none => exact hbroken
    | some conv =>
      refine Leads.andThen (fun success : Bool => if success then .holding (some m) (.qcow2 :: seen) else .broken)
        (leads_perform .converted fun r => ?_) fun success => ?_
      · cases r <;> exact rfl
      · cases success with
        | true => exact rfl
        | false => exact hbroken

theorem leads_pullLayer {m : Manifest} {seen : List Ext} {ext : Ext} (hkept : ext.kept = true) :
    Leads w call Settled (pullLayer w call.imageRef m ext.mediaType ⟨call.key, ext⟩)
      (.holding (some m) seen) fun g' _ => g' = .holding (some m) (ext :: seen) := by
  refine Leads.andThen (fun there : Bool => if there then .holding (some m) (ext :: seen) else .missing m seen ext)
    (leads_perform (.check hkept) fun r => ?_) fun there => ?_
  · cases r <;> exact rfl
  cases there with
  | true => exact rfl
  | false =>
    rw [if_neg Bool.false_ne_true]
    split
    · exact leads_throw rfl
    rename_i layer hlayer
    refine Leads.andThen (fun file => .streaming m seen ext file []) (leads_perform .create fun _ => rfl) fun file => ?_
    refine Leads.andThen (fun _ => .streaming m seen ext file []) (leads_orElse ⟨.stream, fun r => ?_⟩) fun chunks => ?_
    · cases r <;> exact rfl
    refine Leads.andThen _ (leads_writeChunks chunks []) fun _ => ?_
    rw [nil_append]
    split
    · exact Leads.andThen (fun _ => .failing) (leads_perform .discard fun _ => rfl) fun _ => leads_throw rfl
    · rename_i hdigest
      have hverified : Verified w m ext chunks.flatten := ⟨layer, hlayer, hdigest⟩
      -- the media type tells the qcow2 from the others
      have hmedia : ext.mediaType = mediaTypeQcow2 ↔ ext = .qcow2 := by
        cases ext <;> decide
      refine leads_ite (fun hqcow2 => ?_) fun hqcow2 => ?_
      · cases hmedia.mp hqcow2
        exact Leads.andThen _ (leads_decompress hverified) fun _ => leads_perform .cleanUp fun _ => rfl
      · refine leads_orElse ⟨.rename (fun h => hqcow2 (hmedia.mpr h)) hverified, fun r => ?_⟩
        cases r <;> exact rfl

theorem leads_pullLayers {m : Manifest} (exts : List Ext) (hkept : ∀ ext ∈ exts, ext.kept = true) (seen : List Ext) :
    Leads w call Settled
      (pullLayers w call.imageRef m (exts.map fun ext => (ext.mediaType, ⟨call.key, ext⟩)))
      (.holding (some m) seen)
      fun g' _ => ∃ seen', g' = .holding (some m) seen' ∧ (∀ ext ∈ seen, ext ∈ seen') ∧ ∀ ext ∈ exts, ext ∈ seen' := by
  induction exts generalizing seen with
  | nil => exact ⟨seen, rfl, fun _ h => h, nofun⟩
  | cons ext exts ih =>
    refine Leads.andThen _ (leads_pullLayer (hkept ext mem_cons_self)) fun _ => ?_
    refine (ih (fun e he => hkept e (mem_cons_of_mem _ he)) (ext :: seen)).mono fun g' r hr => ?_
    cases r with
    | error e => exact hr
    | ok =>
      obtain ⟨seen', rfl, hsub, hall⟩ := hr
      refine ⟨seen', rfl, fun e he => hsub e (mem_cons_of_mem _ he), fun e he => ?_⟩
      rcases mem_cons.mp he with rfl | he
      · exact hsub e mem_cons_self
      · exact hall e he

/-- The files of an image, in the order they are pulled. -/
def kinds : List Ext := [.qcow2, .vmlinuz, .initrd]

theorem kept_of_mem_kinds : ∀ ext ∈ kinds, ext.kept = true := by decide

theorem seen_of_kinds {seen : List Ext} (h : ∀ ext ∈ kinds, ext ∈ seen) : Seen seen := by
  intro ext hkept
  cases ext with
  | partialFile => cases hkept
  | _ => exact h _ (by decide)

theorem leads_pullOci {seen : List Ext} :
    Leads w call Settled (pullOci w call.imageRef (targets call.key)) (.holding none seen)
      fun g' _ => ∃ m seen', g' = .holding m seen' ∧ Seen seen' := by
  unfold pullOci
  split
  · exact leads_throw rfl
  refine Leads.andThen (fun m => .holding (some m) []) (leads_orElse ⟨.manifest, fun r => ?_⟩) fun m => ?_
  · cases r <;> exact rfl
  refine (leads_pullLayers kinds kept_of_mem_kinds []).mono fun g' r hr => ?_
  cases r with
  | error e => exact hr
  | ok =>
    obtain ⟨seen', rfl, -, hall⟩ := hr
    exact ⟨some m, seen', rfl, seen_of_kinds hall⟩

theorem leads_virtualSize {m : Option Manifest} {seen : List Ext} {p : CachePath} (hseen : Seen seen) :
    Leads w call Settled (qcow2VirtualSizeGib p) (.holding m seen) fun g' _ => g' = .full := by
  refine Leads.bind (Q := fun g' _ => g' = .full) (leads_orElse ⟨.info hseen, fun r => ?_⟩) fun g' _ h => h
  cases r <;> exact rfl

/-- Where an error leaves a call that holds the permit. -/
def Gated (g : Stage) : Prop := g.gated = true

theorem leads_populate (hsrc : src = ⟨call.key, .qcow2⟩) :
    Leads w call Gated (populate w call.lv src virtualSizeGib) .writable
      fun g' _ => g' = .stored := by
  subst hsrc
  have hfailed : ∀ what, Leads w call Gated (do
      let _ ← perform (.lvremove call.lv)
      throw (.imageConvert what)) .writable fun g' (_ : Unit) => g' = .stored := by
    intro what
    exact Leads.andThen (fun _ => .writable) (leads_perform .lvremove fun _ => rfl) fun _ => leads_throw rfl
  refine Leads.andThen (fun _ => .writable) (leads_orElse ⟨.lvcreate, fun r => ?_⟩) fun _ => ?_
  · cases r <;> exact rfl
  refine Leads.andThen (fun conv => conv.elim .writable .filling) (leads_orElse ⟨.fill, fun r => ?_⟩) fun conv => ?_
  · rcases r with e | (_ | conv) <;> exact rfl
  cases conv with
  | none => exact hfailed _
  | some conv =>
    refine Leads.andThen (fun success : Bool => if success then .filled else .writable)
      (leads_perform .filled fun r => ?_) fun success => ?_
    · cases r <;> exact rfl
    cases success with
    | true =>
      refine leads_orElse ⟨.seal, fun r => ?_⟩
      cases r <;> exact rfl
    | false => exact hfailed _

theorem leads_attr (hg : g = .full ∨ g = .writable) (hE : E g) :
    Leads w call E (lvAttr w call.lv) g
      fun g' attr => g' = if attr = some true then .stored else .writable := by
  refine leads_orElse ⟨.attr hg, fun r => ?_⟩
  rcases hg with rfl | rfl <;>
    match r with
    | .ok (some true) | .ok (some false) | .ok none => exact rfl
    | .error e => exact hE

theorem leads_recreate (hsrc : src = ⟨call.key, .qcow2⟩) :
    Leads w call Gated (recreate w call.lv src virtualSizeGib) .writable
      fun g' _ => g' = .stored := by
  refine Leads.andThen _ (leads_attr (.inr rfl) rfl) fun attr => ?_
  match attr with
  | some true => exact rfl
  | none => exact leads_populate hsrc
  | some false =>
    refine Leads.andThen (fun _ => .writable) (leads_orElse ⟨.lvremove, fun r => ?_⟩) fun _ => leads_populate hsrc
    cases r <;> exact rfl

theorem leads_ensureImageLv (hsrc : src = ⟨call.key, .qcow2⟩) :
    Leads w call Settled (ensureImageLv w call.key src virtualSizeGib) .full
      fun g' _ => g' = .stored := by
  have hsettled : ∀ {g}, Gated g → g.settled = true := by
    intro g hg
    cases g <;> first | rfl | cases hg
  have hgate : Leads w call Settled (do
      let taken : Bool ← perform .acquire
      if taken then
        let result ← ExceptT.lift
          (recreate w call.lv src virtualSizeGib).run
        perform .release
        ExceptT.mk (return result)
      else throw (ImageError.lvm (.busy "rootfs"))) .writable fun g' (_ : Unit) => g' = .stored := by
    refine Leads.andThen (fun _ => .writable) (leads_perform .acquire fun _ => rfl) fun taken => ?_
    cases taken with
    | false => exact leads_throw rfl
    | true =>
      refine Leads.bind (leads_lift (leads_recreate hsrc)) fun g' result hresult => ?_
      -- the permit is given back wherever that ended
      cases result with
      | ok =>
        subst hresult
        exact Leads.bind (leads_perform (.release rfl) fun _ => rfl) (Q := fun g' _ => g' = .stored) fun _ _ h => h
      | error e =>
        have hkeeps : ∀ r, nextStage g' .release r = g' := by
          cases g' <;> exact fun _ => rfl
        exact Leads.andThen (fun _ => g') (leads_perform (.release hresult) hkeeps) fun _ => hsettled hresult
  refine Leads.andThen _ (leads_attr (.inl rfl) rfl) fun attr => ?_
  match attr with
  | some true => exact rfl
  | some false | none => exact hgate

theorem leads_ensureLocked :
    Leads w call Settled (ensureLocked w call.imageRef) (.holding none []) fun g' img =>
      g' = .stored ∧ ∃ virtualSizeGib, img = cached w call.imageRef virtualSizeGib := by
  have hrest : ∀ {m seen}, Seen seen → Leads w call Settled (do
      let virtualSizeGib ← qcow2VirtualSizeGib ⟨call.key, .qcow2⟩
      ensureImageLv w call.key ⟨call.key, .qcow2⟩ virtualSizeGib
      return cached w call.imageRef virtualSizeGib) (.holding m seen) fun g' img =>
        g' = .stored ∧ ∃ virtualSizeGib, img = cached w call.imageRef virtualSizeGib := by
    intro m seen hseen
    refine Leads.andThen _ (leads_virtualSize hseen) fun n => ?_
    exact Leads.andThen _ (leads_ensureImageLv rfl) fun _ => ⟨rfl, n, rfl⟩
  refine Leads.bind (leads_lift (follows_allExist_locked kinds kept_of_mem_kinds [])) ?_
  rintro g' there ⟨seen, rfl, -, hall⟩
  cases there with
  | true => exact hrest (seen_of_kinds (hall rfl))
  | false =>
    refine Leads.bind leads_pullOci ?_
    rintro g' - ⟨m, seen', rfl, hseen⟩
    exact hrest hseen

end Text

theorem locked_unlock {g : Stage} (hg : g.settled = true) {imageRef : String} (r : ImageOp.Resp (.unlock imageRef)) :
    (nextStage g (.unlock imageRef) r).locked = false := by
  cases g with
  | outside | ready | converting | broken => cases hg
  | _ => rfl

/-- **The protocol governs `ensure_cached`.** -/
theorem governs (w : ImageWorld) : (discipline w).Governs (machine w) := by
  intro call
  have hsize : Leads w call (fun g => g.locked = false)
      (qcow2VirtualSizeGib ⟨call.key, .qcow2⟩) .ready fun g' _ => g' = .ready := by
    refine Leads.bind (Q := fun g' _ => g' = .ready) (leads_orElse ⟨.size, fun r => ?_⟩) fun g' _ h => h
    cases r <;> exact rfl
  have hcall : Leads w call (fun g => g.locked = false) (ensureCached w call.id call.imageRef) .outside fun g' img =>
      g' = .ready ∧ ∃ virtualSizeGib, img = cached w call.imageRef virtualSizeGib := by
    refine Leads.andThen _ (leads_lift follows_ready) fun fast => ?_
    cases fast with
    | true => exact Leads.andThen _ hsize fun n => ⟨rfl, n, rfl⟩
    | false =>
      refine Leads.andThen (fun _ => .holding none []) (leads_perform .lock fun _ => rfl) fun _ => ?_
      refine Leads.bind (leads_lift leads_ensureLocked) fun g' result hresult => ?_
      cases result with
      | ok img =>
        obtain ⟨rfl, himg⟩ := hresult
        exact Leads.andThen (fun _ => .ready) (leads_perform (.unlock rfl) fun _ => rfl) fun _ => ⟨rfl, himg⟩
      | error e =>
        exact Leads.bind (Q := fun g' _ => g'.locked = false) (leads_perform (.unlock hresult) (locked_unlock hresult))
          fun _ _ h => h
  refine hcall.mono fun g' r hr => ?_
  cases r with
  | error e => exact ⟨hr, nofun⟩
  | ok img =>
    refine ⟨by rw [hr.1]; rfl, fun img' himg => ?_⟩
    cases himg
    exact hr

/-! ## What holds of the cache -/

/-- What the files and the golden volume under one key keep to, whatever the calls are doing. -/
structure StemOk (w : ImageWorld) (started : List Call) (p : String) (s : ImageStore) : Prop where
  /-- A file that is whole is made from the layer of a reference with this key. -/
  files : ∀ ext bytes, ext.kept = true → s.disk.look ⟨p, ext⟩ = some (.whole bytes) →
    ∃ call ∈ started, imageRefToPrefix call.imageRef = p ∧ Genuine w call.imageRef ext bytes
  /-- Only the qcow2 is ever torn, -/
  boot : ∀ ext, ext.kept = true → ext ≠ .qcow2 → s.disk.look ⟨p, ext⟩ ≠ some .torn
  /-- and only while the lock is held. -/
  torn : s.disk.look ⟨p, .qcow2⟩ = some .torn →
    ∃ call ∈ started, imageRefToPrefix call.imageRef = p ∧ s.locks call.imageRef ≠ none
  /-- The golden volume comes after the files. -/
  populated : ∀ g, s.golden (imageLvName p) = some g →
    ∀ ext, ext.kept = true → ∃ bytes, s.disk.look ⟨p, ext⟩ = some (.whole bytes)
  /-- Once it is read-only, it holds the whole image. -/
  whole : ∀ g, s.golden (imageLvName p) = some g → g.readOnly = true →
    ∃ bytes, s.disk.look ⟨p, .qcow2⟩ = some (.whole bytes) ∧ g.content = .whole (w.raw bytes)

/-- References with one key are the same, and every key is kept well. -/
structure Inv (w : ImageWorld) (started : List Call) (s : ImageStore) : Prop where
  unique : ∀ call ∈ started, ∀ other ∈ started,
    imageRefToPrefix other.imageRef = imageRefToPrefix call.imageRef → other.imageRef = call.imageRef
  stems : ∀ p, StemOk w started p s

/-- The golden volume is read-only. -/
def Stored (p : String) (s : ImageStore) : Prop := ∃ g, s.golden (imageLvName p) = some g ∧ g.readOnly = true

def Unsealed (p : String) (s : ImageStore) : Prop := ∀ g, s.golden (imageLvName p) = some g → g.readOnly = false

def Untorn (p : String) (s : ImageStore) : Prop := s.disk.look ⟨p, .qcow2⟩ ≠ some .torn

def Present (p : String) (seen : List Ext) (s : ImageStore) : Prop :=
  ∀ ext ∈ seen, ext.kept = true ∧ s.disk.look ⟨p, ext⟩ ≠ none

def Absent (p : String) (ext : Ext) (s : ImageStore) : Prop := ext.kept = true ∧ s.disk.look ⟨p, ext⟩ = none

/-- The side file, and what has gone into it. -/
def Aside (p : String) (file : Nat) (got : Bytes) (s : ImageStore) : Prop :=
  s.disk.name ⟨p, .partialFile⟩ = some file ∧ s.disk.look ⟨p, .partialFile⟩ = some (.whole got)

/-- What a call knows in a stage, beside its lock. -/
def Facts (w : ImageWorld) (imageRef p : String) (s : ImageStore) : Stage → Prop
  | .outside | .failing => True
  | .ready | .stored => Stored p s
  | .holding m seen => (∀ m', m = some m' → m' = w.manifest imageRef) ∧ Present p seen s
  | .missing m seen ext => m = w.manifest imageRef ∧ Present p seen s ∧ Absent p ext s
  | .streaming m seen ext file got =>
    m = w.manifest imageRef ∧ Present p seen s ∧ Absent p ext s ∧ Aside p file got s
  | .converting m seen got conv =>
    m = w.manifest imageRef ∧ Present p seen s ∧ Verified w m .qcow2 got ∧ Aside p conv.source got s ∧
      conv.seen = .whole got ∧ s.disk.name ⟨p, .qcow2⟩ = some conv.target ∧ s.disk.look ⟨p, .qcow2⟩ = some .torn
  | .broken => s.golden (imageLvName p) = none
  | .full => Present p kinds s
  | .writable => Present p kinds s ∧ Unsealed p s
  | .filling conv =>
    Present p kinds s ∧ Unsealed p s ∧ conv.target = imageLvName p ∧ s.disk.name ⟨p, .qcow2⟩ = some conv.source ∧
      s.disk.look ⟨p, .qcow2⟩ = some conv.seen
  | .filled => Present p kinds s ∧ ∃ bytes, s.disk.look ⟨p, .qcow2⟩ = some (.whole bytes) ∧
      s.golden (imageLvName p) = some ⟨false, .whole (w.raw bytes)⟩

/-- What a call can rely on in a stage. -/
structure Holds (w : ImageWorld) (call : Call) (g : Stage) (s : ImageStore) : Prop where
  lock : g.locked = true → s.locks call.imageRef = some call.id
  untorn : g.settled = true → Untorn (imageRefToPrefix call.imageRef) s
  facts : Facts w call.imageRef (imageRefToPrefix call.imageRef) s g

/-! ## Stores that agree on a key -/

/-- The stores have the same files, golden volume and locks under a key. -/
structure Agree (p : String) (s s' : ImageStore) : Prop where
  name : ∀ ext, s'.disk.name ⟨p, ext⟩ = s.disk.name ⟨p, ext⟩
  look : ∀ ext, s'.disk.look ⟨p, ext⟩ = s.disk.look ⟨p, ext⟩
  golden : s'.golden (imageLvName p) = s.golden (imageLvName p)
  locks : ∀ imageRef, imageRefToPrefix imageRef = p → s'.locks imageRef = s.locks imageRef

section Agree

variable {w : ImageWorld} {call : Call} {started : List Call} {p q : String} {s s' : ImageStore} {g : Stage}

theorem agree_of_eq (hdisk : s'.disk = s.disk) (hgolden : s'.golden = s.golden) (hlocks : s'.locks = s.locks) :
    Agree p s s' where
  name := fun _ => by rw [hdisk]
  look := fun _ => by rw [hdisk]
  golden := by rw [hgolden]
  locks := fun _ _ => by rw [hlocks]

/-- Of the files only those that stay matter. -/
theorem StemOk.of_kept (h : StemOk w started p s)
    (hlook : ∀ ext, ext.kept = true → s'.disk.look ⟨p, ext⟩ = s.disk.look ⟨p, ext⟩)
    (hgolden : s'.golden (imageLvName p) = s.golden (imageLvName p))
    (hlocks : ∀ imageRef, imageRefToPrefix imageRef = p → s'.locks imageRef = s.locks imageRef) :
    StemOk w started p s' where
  files := by
    intro ext bytes hkept hbytes
    rw [hlook ext hkept] at hbytes
    exact h.files ext bytes hkept hbytes
  boot := by
    intro ext hkept hne
    rw [hlook ext hkept]
    exact h.boot ext hkept hne
  torn := by
    intro htear
    rw [hlook .qcow2 rfl] at htear
    obtain ⟨call, hcall, hp, hlock⟩ := h.torn htear
    exact ⟨call, hcall, hp, by rwa [hlocks _ hp]⟩
  populated := by
    intro g hg ext hkept
    rw [hgolden] at hg
    rw [hlook ext hkept]
    exact h.populated g hg ext hkept
  whole := by
    intro g hg hro
    rw [hgolden] at hg
    rw [hlook .qcow2 rfl]
    exact h.whole g hg hro

theorem StemOk.congr (h : StemOk w started p s) (hagree : Agree p s s') : StemOk w started p s' :=
  h.of_kept (fun ext _ => hagree.look ext) hagree.golden hagree.locks

variable {imageRef : String} {ext' e : Ext} {content : Content}

theorem Facts.congr (h : Facts w imageRef p s g) (hname : ∀ ext, s'.disk.name ⟨p, ext⟩ = s.disk.name ⟨p, ext⟩)
    (hlook : ∀ ext, s'.disk.look ⟨p, ext⟩ = s.disk.look ⟨p, ext⟩)
    (hgolden : s'.golden (imageLvName p) = s.golden (imageLvName p)) : Facts w imageRef p s' g := by
  cases g <;> simp only [Facts, Stored, Unsealed, Present, Absent, Aside, hname, hlook, hgolden] at h ⊢ <;> exact h

theorem Holds.congr (h : Holds w call g s) (hagree : Agree call.key s s') :
    Holds w call g s' where
  lock := fun hg => (hagree.locks _ rfl).trans (h.lock hg)
  untorn := fun hg => by
    rw [Untorn, hagree.look]
    exact h.untorn hg
  facts := h.facts.congr hagree.name hagree.look hagree.golden

/-! An operation on one key leaves the others alone. -/

theorem path_ne {ext : Ext} (h : p ≠ q) : (⟨p, ext⟩ : CachePath) ≠ ⟨q, ext'⟩ :=
  fun heq => h (congrArg CachePath.stem heq)

/-! What a file operation leaves under its own key. -/

theorem look_create_at {ext : Ext} : (s.disk.create ⟨p, ext⟩ content).1.look ⟨p, e⟩ =
    if e = ext then some content else s.disk.look ⟨p, e⟩ := by
  rw [Files.Disk.look_create]
  simp only [CachePath.mk.injEq, true_and]

theorem look_put_at {ext : Ext} {i : Nat} (hi : s.disk.name ⟨p, ext⟩ = some i) :
    (s.disk.put i content).look ⟨p, e⟩ = if e = ext then some content else s.disk.look ⟨p, e⟩ := by
  rw [Files.Disk.look_put hi]
  simp only [CachePath.mk.injEq, true_and]

theorem look_remove_at {ext : Ext} : (s.disk.remove ⟨p, ext⟩).look ⟨p, e⟩ =
    if e = ext then none else s.disk.look ⟨p, e⟩ := by
  rw [Files.Disk.look_remove]
  simp only [CachePath.mk.injEq, true_and]

theorem Ext.ne_partialFile {ext : Ext} (hkept : ext.kept = true) : ext ≠ .partialFile := by
  rintro rfl
  cases hkept

theorem agree_setGolden {g : Option Golden} (h : p ≠ q) : Agree p s (s.setGolden (imageLvName q) g) where
  name := fun _ => rfl
  look := fun _ => rfl
  golden := update_of_ne (fun heq => h (imageLvName_injective heq)) ..
  locks := fun _ _ => rfl

theorem agree_locks {holder : Option Nat} (h : p ≠ imageRefToPrefix imageRef) :
    Agree p s { s with locks := update s.locks imageRef holder } where
  name := fun _ => rfl
  look := fun _ => rfl
  golden := rfl
  locks := fun other hother => update_of_ne (fun heq : other = imageRef => h (by rw [← hother, heq])) ..

theorem agree_create {ext : Ext} (h : p ≠ q) : Agree p s { s with disk := (s.disk.create ⟨q, ext⟩ content).1 } where
  name := fun _ => Files.Disk.name_create_ne (path_ne h)
  look := fun _ => by rw [Files.Disk.look_create, if_neg (path_ne h)]
  golden := rfl
  locks := fun _ _ => rfl

theorem agree_put {ext : Ext} {i : Nat} (hi : s.disk.name ⟨q, ext⟩ = some i) (h : p ≠ q) :
    Agree p s { s with disk := s.disk.put i content } where
  name := fun _ => rfl
  look := fun _ => by rw [Files.Disk.look_put hi, if_neg (path_ne h)]
  golden := rfl
  locks := fun _ _ => rfl

theorem agree_remove {ext : Ext} (h : p ≠ q) : Agree p s { s with disk := s.disk.remove ⟨q, ext⟩ } where
  name := fun _ => Files.Disk.name_remove_ne (path_ne h)
  look := fun _ => by rw [Files.Disk.look_remove, if_neg (path_ne h)]
  golden := rfl
  locks := fun _ _ => rfl

theorem agree_rename {ext : Ext} {disk : Files.Disk CachePath Content}
    (hdisk : s.disk.rename ⟨q, ext⟩ ⟨q, ext'⟩ = some disk) (h : p ≠ q) : Agree p s { s with disk } where
  name := fun _ => Files.Disk.name_rename_ne hdisk (path_ne h) (path_ne h)
  look := fun _ => by rw [Files.Disk.look_rename hdisk, if_neg (path_ne h), if_neg (path_ne h)]
  golden := rfl
  locks := fun _ _ => rfl

theorem Agree.trans {s'' : ImageStore} (h : Agree p s s') (h' : Agree p s' s'') : Agree p s s'' where
  name := fun ext => (h'.name ext).trans (h.name ext)
  look := fun ext => (h'.look ext).trans (h.look ext)
  golden := h'.golden.trans h.golden
  locks := fun imageRef hp => (h'.locks imageRef hp).trans (h.locks imageRef hp)

theorem agree_counted : Agree p s s.counted := agree_of_eq rfl rfl rfl

/-- **Other keys.** -/
theorem agree_exec {o : ImageOp} (hallow : Allows w call g o) (hholds : Holds w call g s)
    (hp : p ≠ call.key) : Agree p s (o.exec w s).1 := by
  have hfacts := hholds.facts
  cases hallow with
  | peek | golden | size | check | manifest | info | stream | chunk | attr | release => exact agree_of_eq rfl rfl rfl
  | lock | unlock => exact agree_locks hp
  | create => exact agree_create hp
  | cleanUp | discard | unmake => exact agree_remove hp
  | write => exact agree_put hfacts.2.2.2.1 hp
  | acquire =>
    simp only [ImageOp.exec]
    split <;> exact agree_of_eq rfl rfl rfl
  | rename =>
    simp only [ImageOp.exec]
    split
    · exact agree_rename ‹_› hp
    · exact agree_of_eq rfl rfl rfl
  | convert =>
    simp only [ImageOp.exec]
    split
    · exact agree_counted
    · exact agree_counted
    · exact (agree_create hp).trans (agree_of_eq rfl rfl rfl)
  | converted =>
    simp only [ImageOp.exec]
    split
    · exact agree_counted
    · exact (agree_put hfacts.2.2.2.2.2.1 hp).trans (agree_of_eq rfl rfl rfl)
  | filled =>
    simp only [ImageOp.exec]
    split
    · rw [hfacts.2.2.1]
      exact agree_counted.trans (agree_setGolden hp)
    · exact agree_counted
  | lvremove | lvcreate | fill | «seal» =>
    simp only [ImageOp.exec]
    split <;> first | exact agree_counted | exact agree_counted.trans (agree_setGolden hp)

end Agree

/-! ## What a step leaves under its own key -/

section Own

variable {w : ImageWorld} {call : Call} {started : List Call} {p : String} {s s' : ImageStore}

@[simp] theorem golden_setGolden {lv : String} {g : Option Golden} : (s.setGolden lv g).golden lv = g :=
  update_self ..

/-- A file changes while there is no golden volume. -/
theorem StemOk.setFile (ext : Ext) (content : Option Content) (h : StemOk w started p s)
    (hgolden : s.golden (imageLvName p) = none)
    (hwhole : ∀ bytes, content = some (.whole bytes) →
      ∃ call ∈ started, call.key = p ∧ Genuine w call.imageRef ext bytes)
    (htorn : content = some .torn → ext = .qcow2 ∧
      ∃ call ∈ started, call.key = p ∧ s.locks call.imageRef ≠ none)
    (hlook : ∀ e : Ext, e.kept = true → s'.disk.look ⟨p, e⟩ = if e = ext then content else s.disk.look ⟨p, e⟩)
    (hgolden' : s'.golden = s.golden) (hlocks : s'.locks = s.locks) : StemOk w started p s' where
  files := by
    intro e bytes hkept hbytes
    rw [hlook e hkept] at hbytes
    by_cases he : e = ext
    · rw [if_pos he] at hbytes
      exact he ▸ hwhole bytes hbytes
    · rw [if_neg he] at hbytes
      exact h.files e bytes hkept hbytes
  boot := by
    intro e hkept hne htear
    rw [hlook e hkept] at htear
    by_cases he : e = ext
    · rw [if_pos he] at htear
      exact hne (he.trans (htorn htear).1)
    · rw [if_neg he] at htear
      exact h.boot e hkept hne htear
  torn := by
    intro htear
    rw [hlook .qcow2 rfl] at htear
    rw [hlocks]
    by_cases he : Ext.qcow2 = ext
    · rw [if_pos he] at htear
      exact (htorn htear).2
    · rw [if_neg he] at htear
      exact h.torn htear
  populated := by
    intro g hg
    rw [hgolden', hgolden] at hg
    cases hg
  whole := by
    intro g hg
    rw [hgolden', hgolden] at hg
    cases hg

/-- The golden volume changes when every file is whole. -/
theorem StemOk.setGolden {content : Option Golden} (h : StemOk w started p s)
    (hfiles : ∀ ext : Ext, ext.kept = true → ∃ bytes, s.disk.look ⟨p, ext⟩ = some (.whole bytes))
    (hsealed : ∀ g, content = some g → g.readOnly = true →
      ∃ bytes, s.disk.look ⟨p, .qcow2⟩ = some (.whole bytes) ∧ g.content = .whole (w.raw bytes)) :
    StemOk w started p (s.counted.setGolden (imageLvName p) content) where
  files := h.files
  boot := h.boot
  torn := h.torn
  populated := fun _ _ => hfiles
  whole := by
    intro g hg
    rw [golden_setGolden] at hg
    exact hsealed g hg

theorem StemOk.unlock (imageRef : String) (h : StemOk w started p s) (huntorn : Untorn p s) :
    StemOk w started p { s with locks := update s.locks imageRef none } where
  files := h.files
  boot := h.boot
  torn := fun htear => absurd htear huntorn
  populated := h.populated
  whole := h.whole

theorem StemOk.lock {imageRef : String} {id : Nat} (h : StemOk w started p s) :
    StemOk w started p { s with locks := update s.locks imageRef (some id) } where
  files := h.files
  boot := h.boot
  torn := by
    intro htear
    obtain ⟨call, hcall, hp, hlock⟩ := h.torn htear
    refine ⟨call, hcall, hp, fun hnone => ?_⟩
    by_cases href : call.imageRef = imageRef
    · simp [href] at hnone
    · simp only [update_of_ne href] at hnone
      exact hlock hnone
  populated := h.populated
  whole := h.whole

/-- What is there and not torn is whole. -/
theorem StemOk.whole_of_present (h : StemOk w started p s) (huntorn : Untorn p s) (hpresent : Present p kinds s) :
    ∀ ext : Ext, ext.kept = true → ∃ bytes, s.disk.look ⟨p, ext⟩ = some (.whole bytes) := by
  intro ext hkept
  have hmem : ext ∈ kinds := by
    cases ext with
    | partialFile => cases hkept
    | _ => decide
  have hnot : s.disk.look ⟨p, ext⟩ ≠ some .torn := by
    by_cases hext : ext = .qcow2
    · exact hext ▸ huntorn
    · exact h.boot ext hkept hext
  match hlook : s.disk.look ⟨p, ext⟩ with
  | none => exact absurd hlook (hpresent ext hmem).2
  | some .torn => exact absurd hlook hnot
  | some (.whole bytes) => exact ⟨bytes, rfl⟩

/-- Where a file is missing there is no golden volume, -/
theorem StemOk.golden_of_absent (h : StemOk w started p s) {ext : Ext} (habsent : Absent p ext s) :
    s.golden (imageLvName p) = none := by
  cases hg : s.golden (imageLvName p) with
  | none => rfl
  | some g =>
    obtain ⟨bytes, hbytes⟩ := h.populated g hg ext habsent.1
    rw [habsent.2] at hbytes
    cases hbytes

/-- nor where the qcow2 is torn. -/
theorem StemOk.golden_of_torn (h : StemOk w started p s) (htorn : s.disk.look ⟨p, .qcow2⟩ = some .torn) :
    s.golden (imageLvName p) = none := by
  cases hg : s.golden (imageLvName p) with
  | none => rfl
  | some g =>
    obtain ⟨bytes, hbytes⟩ := h.populated g hg .qcow2 rfl
    rw [htorn] at hbytes
    cases hbytes

end Own

/-! ## A call's own step -/

section Step

variable {w : ImageWorld} {call : Call} {started : List Call} {s : ImageStore}

/-- What a step of the call has to leave: its key in order, and the facts of its next stage. -/
def Leaves (w : ImageWorld) (started : List Call) (call : Call) (g : Stage) (s : ImageStore) : Prop :=
  StemOk w started (imageRefToPrefix call.imageRef) s ∧ Holds w call g s

variable {g : Stage} (hcall : call ∈ started) (hstem : StemOk w started (imageRefToPrefix call.imageRef) s)
include hstem

/-- Nothing under the key changes, and what the next stage needs is known. -/
theorem leaves_of_agree {s' : ImageStore} (g' : Stage) (hagree : Agree call.key s s') (hholds : Holds w call g s)
    (hlocked : g'.locked = true → g.locked = true) (hsettled : g'.settled = true → g.settled = true)
    (hfacts : Facts w call.imageRef call.key s g') : Leaves w started call g' s' := by
  refine ⟨hstem.congr hagree, Holds.congr ⟨?_, ?_, hfacts⟩ hagree⟩
  · exact fun h => hholds.lock (hlocked h)
  · exact fun h => hholds.untorn (hsettled h)

/-! ### The side file -/

section Aside

omit hstem

variable {p : String} {disk : Files.Disk CachePath Content} {seen : List Ext} {ext : Ext}

theorem Present.of_kept (h : Present p seen s)
    (hlook : ∀ e : Ext, e.kept = true → disk.look ⟨p, e⟩ = s.disk.look ⟨p, e⟩) : Present p seen { s with disk } := by
  intro e he
  obtain ⟨hkept, hthere⟩ := h e he
  exact ⟨hkept, fun hnone => hthere ((hlook e hkept).symm.trans hnone)⟩

theorem Absent.of_kept (h : Absent p ext s)
    (hlook : ∀ e : Ext, e.kept = true → disk.look ⟨p, e⟩ = s.disk.look ⟨p, e⟩) : Absent p ext { s with disk } :=
  ⟨h.1, (hlook ext h.1).trans h.2⟩

end Aside

/-- Only the side file changes. -/
theorem leaves_aside {g' : Stage} {content : Option Content} {disk : Files.Disk CachePath Content}
    (hholds : Holds w call g s) (hlocked : g.locked = true) (hsettled : g.settled = true)
    (hlook : ∀ e : Ext, disk.look ⟨call.key, e⟩ =
      if e = .partialFile then content else s.disk.look ⟨call.key, e⟩)
    (hfacts : (∀ e : Ext, e.kept = true →
        disk.look ⟨call.key, e⟩ = s.disk.look ⟨call.key, e⟩) →
      Facts w call.imageRef call.key { s with disk } g') :
    Leaves w started call g' { s with disk } := by
  have hkeeps : ∀ e : Ext, e.kept = true →
      disk.look ⟨call.key, e⟩ = s.disk.look ⟨call.key, e⟩ :=
    fun e hkept => (hlook e).trans (if_neg (Ext.ne_partialFile hkept))
  refine ⟨hstem.of_kept hkeeps rfl fun _ _ => rfl, fun _ => hholds.lock hlocked, fun _ htorn => ?_, hfacts hkeeps⟩
  exact hholds.untorn hsettled ((hkeeps .qcow2 rfl).symm.trans htorn)

variable {m : Manifest} {seen : List Ext} {ext : Ext} {file : Nat} {got : Bytes}

theorem leaves_create (hholds : Holds w call (.missing m seen ext) s) :
    Leaves w started call
      (.streaming m seen ext (s.disk.create ⟨call.key, .partialFile⟩ (.whole [])).2 [])
      { s with disk := (s.disk.create ⟨call.key, .partialFile⟩ (.whole [])).1 } := by
  obtain ⟨hm, hpresent, habsent⟩ := hholds.facts
  refine leaves_aside hstem hholds rfl rfl (fun _ => look_create_at) fun hlook =>
    ⟨hm, hpresent.of_kept hlook, habsent.of_kept hlook, ?_, ?_⟩
  · exact Files.Disk.name_create
  · exact Files.Disk.look_create.trans (if_pos rfl)

theorem leaves_write {chunk : Bytes} (hholds : Holds w call (.streaming m seen ext file got) s) :
    Leaves w started call (.streaming m seen ext file (got ++ chunk))
      { s with disk := s.disk.put file ((s.disk.file file).overwrite got.length chunk) } := by
  obtain ⟨hm, hpresent, habsent, hname, hgot⟩ := hholds.facts
  have hfile : s.disk.file file = .whole got := by
    rw [Files.Disk.look_of_name hname] at hgot
    exact Option.some.inj hgot
  refine leaves_aside hstem hholds rfl rfl (fun _ => look_put_at hname) fun hlook =>
    ⟨hm, hpresent.of_kept hlook, habsent.of_kept hlook, hname, ?_⟩
  refine (Files.Disk.look_put hname).trans ((if_pos rfl).trans ?_)
  rw [hfile]
  simp [Content.overwrite]

/-! ### The files -/

omit hstem in
/-- Files that have been seen stay, and the one that is written comes to be seen. -/
theorem Present.put {p : String} {s s' : ImageStore} {content : Content} (h : Present p seen s)
    (hkept : ext.kept = true)
    (hlook : ∀ e : Ext, e.kept = true → s'.disk.look ⟨p, e⟩ = if e = ext then some content else s.disk.look ⟨p, e⟩) :
    Present p (ext :: seen) s' := by
  intro e he
  by_cases heq : e = ext
  · subst heq
    refine ⟨hkept, ?_⟩
    rw [hlook e hkept, if_pos rfl]
    exact nofun
  · obtain ⟨hkept', hthere⟩ := h e ((mem_cons.mp he).resolve_left heq)
    refine ⟨hkept', ?_⟩
    rw [hlook e hkept', if_neg heq]
    exact hthere

include hcall in
/-- The side file is checked and moved into place. -/
theorem leaves_rename {disk : Files.Disk CachePath Content}
    (hholds : Holds w call (.streaming m seen ext file got) s) (hext : ext ≠ .qcow2) (hverified : Verified w m ext got)
    (hdisk : s.disk.rename ⟨call.key, .partialFile⟩ ⟨call.key, ext⟩ =
      some disk) : Leaves w started call (.holding (some m) (ext :: seen)) { s with disk } := by
  obtain ⟨hm, hpresent, habsent, hname, hgot⟩ := hholds.facts
  have hlook : ∀ e : Ext, e.kept = true → disk.look ⟨call.key, e⟩ =
      if e = ext then some (.whole got) else s.disk.look ⟨call.key, e⟩ := by
    intro e hkept
    rw [Files.Disk.look_rename hdisk, hgot]
    simp only [CachePath.mk.injEq, true_and, if_neg (Ext.ne_partialFile hkept)]
  have hbytes : ImageWorld.keeps w got ext = got := by
    cases ext with
    | qcow2 => exact absurd rfl hext
    | _ => rfl
  refine ⟨hstem.setFile ext (some (.whole got)) (hstem.golden_of_absent habsent) ?_ nofun hlook rfl rfl,
    hholds.lock, fun _ htorn => ?_, fun m' hm' => ?_, hpresent.put habsent.1 hlook⟩
  · intro bytes hwhole
    cases hwhole
    exact ⟨call, hcall, rfl, got, hm ▸ hverified, hbytes.symm⟩
  · refine hholds.untorn rfl ?_
    rw [← htorn]
    exact ((hlook .qcow2 rfl).trans (if_neg (Ne.symm hext))).symm
  · cases hm'
    exact hm

include hcall in
/-- `qemu-img` begins to write the qcow2: from here to its end the file is torn. -/
theorem leaves_convert {i : Nat} (hholds : Holds w call (.streaming m seen .qcow2 file got) s)
    (hverified : Verified w m .qcow2 got)
    (hi : s.disk.name ⟨call.key, .partialFile⟩ = some i) :
    Leaves w started call
      (.converting m seen got
        ⟨i, s.disk.file i, (s.disk.create ⟨call.key, .qcow2⟩ .torn).2⟩)
      { s.counted with disk := (s.disk.create ⟨call.key, .qcow2⟩ .torn).1 } := by
  obtain ⟨hm, hpresent, habsent, hname, hgot⟩ := hholds.facts
  have hlook : ∀ e : Ext, (s.disk.create ⟨call.key, .qcow2⟩ .torn).1.look
      ⟨call.key, e⟩ =
        if e = .qcow2 then some .torn else s.disk.look ⟨call.key, e⟩ := fun _ => look_create_at
  refine ⟨hstem.setFile .qcow2 (some .torn) (hstem.golden_of_absent habsent) nofun
    (fun _ => ⟨rfl, call, hcall, rfl, fun hnone => ?_⟩) (fun e _ => hlook e) rfl rfl, hholds.lock, nofun,
    hm, ?_, hverified, ⟨?_, ?_⟩, ?_, ?_, ?_⟩
  · rw [hholds.lock rfl] at hnone
    cases hnone
  · intro e he
    exact hpresent.put rfl (fun e _ => hlook e) e (mem_cons_of_mem _ he)
  · refine (Files.Disk.name_create_ne fun h => ?_).trans hi
    cases h
  · exact (hlook .partialFile).trans hgot
  · rw [Files.Disk.look_of_name hi] at hgot
    exact Option.some.inj hgot
  · exact Files.Disk.name_create
  · exact hlook .qcow2

include hcall in
theorem leaves_converted {conv : Conversion Nat} (hholds : Holds w call (.converting m seen got conv) s) :
    Leaves w started call (.holding (some m) (.qcow2 :: seen))
      { s.counted with disk := s.disk.put conv.target (conv.result w.decompress s) } := by
  obtain ⟨hm, hpresent, hverified, ⟨hsource, hgot⟩, hseen, htarget, htorn⟩ := hholds.facts
  have hresult : conv.result w.decompress s = .whole (w.decompress got) := by
    rw [Files.Disk.look_of_name hsource] at hgot
    unfold Conversion.result
    rw [if_pos ((Option.some.inj hgot).trans hseen.symm), hseen]
  have hlook : ∀ e : Ext, (s.disk.put conv.target (conv.result w.decompress s)).look
      ⟨call.key, e⟩ = if e = .qcow2 then some (.whole (w.decompress got)) else
        s.disk.look ⟨call.key, e⟩ := fun _ => hresult ▸ look_put_at htarget
  refine ⟨hstem.setFile .qcow2 (some (.whole (w.decompress got))) (hstem.golden_of_torn htorn) ?_
    nofun (fun e _ => hlook e) rfl rfl, hholds.lock, fun _ h => ?_, fun m' hm' => ?_,
    hpresent.put rfl fun e _ => hlook e⟩
  · intro bytes hwhole
    cases hwhole
    exact ⟨call, hcall, rfl, got, hm ▸ hverified, rfl⟩
  · have hnow := (hlook .qcow2).symm.trans h
    cases hnow
  · cases hm'
    exact hm

theorem leaves_unmake (hholds : Holds w call .broken s) :
    Leaves w started call .failing { s with disk := s.disk.remove ⟨call.key, .qcow2⟩ } := by
  have hlook : ∀ e : Ext, (s.disk.remove ⟨call.key, .qcow2⟩).look
      ⟨call.key, e⟩ =
        if e = .qcow2 then none else s.disk.look ⟨call.key, e⟩ := fun _ => look_remove_at
  refine ⟨hstem.setFile .qcow2 none hholds.facts nofun nofun (fun e _ => hlook e)
    rfl rfl, hholds.lock, fun _ h => ?_, trivial⟩
  have hnow := (hlook .qcow2).symm.trans h
  cases hnow

/-! ### The golden volume -/

theorem leaves_writable (content : Option Golden) (hholds : Holds w call g s) (hlocked : g.locked = true)
    (hsettled : g.settled = true)
    (hpresent : Present call.key kinds s)
    (hcontent : ∀ golden, content = some golden → golden.readOnly = false) :
    Leaves w started call .writable (s.counted.setGolden call.lv content) := by
  have hsealed : ∀ golden, content = some golden → golden.readOnly = true → ∃ bytes,
      s.disk.look ⟨call.key, .qcow2⟩ = some (.whole bytes) ∧
        golden.content = .whole (w.raw bytes) := by
    intro golden hgolden hro
    rw [hcontent golden hgolden] at hro
    cases hro
  refine ⟨hstem.setGolden (hstem.whole_of_present (hholds.untorn hsettled) hpresent) hsealed,
    fun _ => hholds.lock hlocked, fun _ => hholds.untorn hsettled, hpresent, fun golden hgolden => ?_⟩
  rw [golden_setGolden] at hgolden
  exact hcontent golden hgolden

theorem leaves_attr (hholds : Holds w call g s)
    (hg : g = .full ∨ g = .writable) :
    Leaves w started call
      (nextStage g (.lvAttr call.lv)
        (ImageOp.exec w (.lvAttr call.lv) s).2) s.counted := by
  have hpresent : Present call.key kinds s := by
    rcases hg with rfl | rfl
    · exact hholds.facts
    · exact hholds.facts.1
  have hsettled : g.settled = true ∧ g.locked = true := by
    rcases hg with rfl | rfl <;> exact ⟨rfl, rfl⟩
  have hnext : ∀ g', Facts w call.imageRef call.key s g' → Leaves w started call g' s.counted :=
    fun g' hfacts => leaves_of_agree hstem g' agree_counted hholds (fun _ => hsettled.2) (fun _ => hsettled.1) hfacts
  simp only [ImageOp.exec]
  cases w.fails s.count with
  | some e =>
    rcases hg with rfl | rfl
    · exact hnext .full hholds.facts
    · exact hnext .writable hholds.facts
  | none =>
    cases hgolden : s.golden call.lv with
    | none =>
      have hunsealed : Unsealed call.key s := fun golden h => by
        rw [hgolden] at h
        cases h
      rcases hg with rfl | rfl <;> exact hnext .writable ⟨hpresent, hunsealed⟩
    | some golden =>
      obtain ⟨readOnly, content⟩ := golden
      cases readOnly with
      | true =>
        have hstored : Stored call.key s := ⟨_, hgolden, rfl⟩
        rcases hg with rfl | rfl <;> exact hnext .stored hstored
      | false =>
        have hunsealed : Unsealed call.key s := fun golden h => by
          rw [hgolden] at h
          cases h
          rfl
        rcases hg with rfl | rfl <;> exact hnext .writable ⟨hpresent, hunsealed⟩

/-- `qemu-img` begins to fill the golden volume. -/
theorem leaves_fill (hholds : Holds w call .writable s) :
    Leaves w started call
      (nextStage .writable
        (.fillStart ⟨call.key, .qcow2⟩ call.lv)
        (ImageOp.exec w (.fillStart ⟨call.key, .qcow2⟩
          call.lv) s).2)
      (ImageOp.exec w (.fillStart ⟨call.key, .qcow2⟩
        call.lv) s).1 := by
  obtain ⟨hpresent, hunsealed⟩ := hholds.facts
  have hsame : Leaves w started call .writable s.counted :=
    leaves_of_agree hstem .writable agree_counted hholds (fun h => h) (fun h => h) hholds.facts
  simp only [ImageOp.exec]
  split
  · exact hsame
  · rename_i i golden hfails hi hgolden
    have hwritable := leaves_writable hstem (some { golden with content := .torn }) hholds rfl rfl hpresent
      (fun g hg => by cases hg; exact hunsealed golden hgolden)
    exact ⟨hwritable.1, hwritable.2.lock, hwritable.2.untorn, hpresent, hwritable.2.facts.2, rfl, hi,
      Files.Disk.look_of_name hi⟩
  · exact hsame

theorem leaves_filled {conv : Conversion String} (hholds : Holds w call (.filling conv) s) :
    Leaves w started call (nextStage (.filling conv) (.fillEnd conv) (ImageOp.exec w (.fillEnd conv) s).2)
      (ImageOp.exec w (.fillEnd conv) s).1 := by
  obtain ⟨hpresent, hunsealed, htarget, hsource, hseen⟩ := hholds.facts
  simp only [ImageOp.exec]
  split
  · rename_i golden hfails hgolden
    rw [htarget] at hgolden ⊢
    obtain ⟨bytes, hbytes⟩ := hstem.whole_of_present (hholds.untorn rfl) hpresent .qcow2 rfl
    have hresult : conv.result w.raw s = .whole (w.raw bytes) := by
      have hwhole : conv.seen = .whole bytes := Option.some.inj (hseen.symm.trans hbytes)
      rw [Files.Disk.look_of_name hsource] at hseen
      unfold Conversion.result
      rw [if_pos (Option.some.inj hseen), hwhole]
    have hnew : ({ golden with content := conv.result w.raw s } : Golden) = ⟨false, .whole (w.raw bytes)⟩ := by
      rw [hresult, hunsealed golden hgolden]
    rw [hnew]
    have hwritable := leaves_writable hstem (some ⟨false, .whole (w.raw bytes)⟩) hholds rfl rfl hpresent
      (fun g hg => by cases hg; rfl)
    exact ⟨hwritable.1, hwritable.2.lock, hwritable.2.untorn, hpresent, bytes, hbytes, golden_setGolden⟩
  · exact leaves_of_agree hstem .writable agree_counted hholds (fun _ => rfl) (fun _ => rfl) ⟨hpresent, hunsealed⟩

theorem leaves_seal (hholds : Holds w call .filled s) :
    Leaves w started call
      (nextStage .filled (.lvchangeReadOnly call.lv)
        (ImageOp.exec w (.lvchangeReadOnly call.lv) s).2)
      (ImageOp.exec w (.lvchangeReadOnly call.lv) s).1 := by
  obtain ⟨hpresent, bytes, hbytes, hgolden⟩ := hholds.facts
  simp only [ImageOp.exec, hgolden]
  cases w.fails s.count with
  | some e =>
    refine leaves_of_agree hstem .writable agree_counted hholds (fun _ => rfl) (fun _ => rfl) ⟨hpresent, ?_⟩
    intro golden h
    rw [hgolden] at h
    cases h
    rfl
  | none =>
    refine ⟨hstem.setGolden (hstem.whole_of_present (hholds.untorn rfl) hpresent) ?_, hholds.lock, hholds.untorn,
      _, golden_setGolden, rfl⟩
    intro golden h _
    cases h
    exact ⟨bytes, hbytes, rfl⟩

/-! ### Every step -/

omit hstem in
/-- **A call's own step**, given that a lock is taken only when it is free and that the fast path finds no golden
    volume that is not read-only. -/
theorem exec_own {o : ImageOp} (hinv : Inv w started s) (hcall : call ∈ started)
    (hallow : Allows w call g o) (hholds : Holds w call g s)
    (hlock : ∀ id imageRef, o = .lock id imageRef → s.locks imageRef = none)
    (hfast : ∀ lv, o = .lvPathExists lv → ∀ golden, s.golden lv = some golden → golden.readOnly = true) :
    Leaves w started call (nextStage g o (o.exec w s).2) (o.exec w s).1 := by
  have hstem := hinv.stems call.key
  have hread : ∀ {s'} (g' : Stage), s'.disk = s.disk → s'.golden = s.golden → s'.locks = s.locks →
      (g'.locked = true → g.locked = true) → (g'.settled = true → g.settled = true) →
      Facts w call.imageRef call.key s g' → Leaves w started call g' s' :=
    fun g' hdisk hgolden hlocks hlocked hsettled hfacts =>
      leaves_of_agree hstem g' (agree_of_eq hdisk hgolden hlocks) hholds hlocked hsettled hfacts
  have hkeep : ∀ {s'}, s'.disk = s.disk → s'.golden = s.golden → s'.locks = s.locks → Leaves w started call g s' :=
    fun hdisk hgolden hlocks => hread g hdisk hgolden hlocks id id hholds.facts
  cases hallow with
  | peek | size => exact hkeep rfl rfl rfl
  | golden =>
    simp only [ImageOp.exec]
    cases hgolden : s.golden call.lv with
    | none => exact hkeep rfl rfl rfl
    | some golden =>
      exact hread .ready rfl rfl rfl id id ⟨golden, hgolden, hfast _ rfl golden hgolden⟩
  | lock =>
    refine ⟨hstem.lock, fun _ => update_self .., fun _ htear => ?_, nofun, nofun⟩
    -- who tore it would hold the lock
    obtain ⟨other, hother, hkey, hheld⟩ := hstem.torn htear
    rw [hinv.unique call hcall other hother hkey] at hheld
    exact hheld (hlock _ _ rfl)
  | @check m seen ext hkept =>
    obtain ⟨hm, hpresent⟩ := hholds.facts
    simp only [ImageOp.exec]
    cases hlook : s.disk.look ⟨call.key, ext⟩ with
    | some content =>
      refine hread (.holding m (ext :: seen)) rfl rfl rfl id id ⟨hm, fun e he => ?_⟩
      rcases mem_cons.mp he with rfl | he
      · exact ⟨hkept, fun h => nomatch h.symm.trans hlook⟩
      · exact hpresent e he
    | none =>
      cases m with
      | none => exact hkeep rfl rfl rfl
      | some m =>
        exact hread (.missing m seen ext) rfl rfl rfl id id ⟨hm m rfl, hpresent, hkept, hlook⟩
  | @manifest m seen =>
    simp only [ImageOp.exec]
    cases w.fails s.count with
    | some e => exact hkeep rfl rfl rfl
    | none =>
      refine hread (.holding (some (w.manifest call.imageRef)) []) rfl rfl rfl id id
        ⟨fun m' hm' => ?_, nofun⟩
      cases hm'
      rfl
  | @cleanUp m seen =>
    exact leaves_aside hstem hholds rfl rfl (fun _ => look_remove_at) fun hlook =>
      ⟨hholds.facts.1, hholds.facts.2.of_kept hlook⟩
  | @info m seen q hseen =>
    have hpresent : Present call.key kinds s := fun ext hext =>
      hholds.facts.2 ext (hseen ext (kept_of_mem_kinds ext hext))
    simp only [ImageOp.exec]
    split
    · exact hkeep rfl rfl rfl
    · rename_i content _ _
      cases w.virtualSize content with
      | ok n => exact hread .full rfl rfl rfl id id hpresent
      | error e => exact hkeep rfl rfl rfl
    · exact hkeep rfl rfl rfl
  | create => exact leaves_create hstem hholds
  | @stream m seen ext file got layer | @chunk m seen ext file got =>
    exact hkeep rfl rfl rfl
  | write => exact leaves_write hstem hholds
  | discard => exact leaves_aside hstem hholds rfl rfl (fun _ => look_remove_at) fun _ => trivial
  | @rename m seen ext file got hext hverified =>
    simp only [ImageOp.exec]
    split
    · exact leaves_rename hcall hstem hholds hext hverified ‹_›
    · exact hkeep rfl rfl rfl
  | @convert m seen file got hverified =>
    simp only [ImageOp.exec]
    split
    · exact hkeep rfl rfl rfl
    · exact hread .broken rfl rfl rfl id nofun (hstem.golden_of_absent hholds.facts.2.2.1)
    · exact leaves_convert hcall hstem hholds hverified ‹_›
  | converted =>
    simp only [ImageOp.exec]
    cases w.fails s.count with
    | some e =>
      exact hread .broken rfl rfl rfl id nofun (hstem.golden_of_torn hholds.facts.2.2.2.2.2.2)
    | none => exact leaves_converted hcall hstem hholds
  | unmake => exact leaves_unmake hstem hholds
  | attr hg => exact leaves_attr hstem hholds hg
  | acquire =>
    simp only [ImageOp.exec]
    split
    · exact hkeep rfl rfl rfl
    · exact hkeep rfl rfl rfl
  | @release g hg =>
    have hnext : ∀ r, nextStage g .release r = g := by
      cases g <;> exact fun _ => rfl
    rw [hnext]
    exact hkeep rfl rfl rfl
  | lvremove =>
    simp only [ImageOp.exec]
    cases w.fails s.count with
    | some e => exact hkeep rfl rfl rfl
    | none => exact leaves_writable hstem none hholds rfl rfl hholds.facts.1 nofun
  | lvcreate =>
    simp only [ImageOp.exec]
    split
    · exact hkeep rfl rfl rfl
    · exact hkeep rfl rfl rfl
    · exact leaves_writable hstem (some ⟨false, .torn⟩) hholds rfl rfl hholds.facts.1 fun _ h => by cases h; rfl
  | fill => exact leaves_fill hstem hholds
  | filled => exact leaves_filled hstem hholds
  | «seal» => exact leaves_seal hstem hholds
  | @unlock g hg =>
    have hstem' := hstem.unlock call.imageRef (hholds.untorn hg)
    cases g with
    | stored => exact ⟨hstem', nofun, nofun, hholds.facts⟩
    | ready | outside | converting | broken => cases hg
    | _ => exact ⟨hstem', nofun, nofun, trivial⟩

end Step

/-! ## Another call's step -/

section Frame

variable {w : ImageWorld} {call other : Call} {started : List Call} {s : ImageStore} {g g' : Stage} {o : ImageOp}

/-- Nobody touches a golden volume that is read-only. -/
theorem Stored.exec (h : Stored call.key s) (hallow : Allows w call g o)
    (hholds : Holds w call g s) : Stored call.key (o.exec w s).1 := by
  obtain ⟨golden, hgolden, hro⟩ := h
  have hsealed : ¬ Unsealed call.key s := by
    intro hunsealed
    rw [hunsealed golden hgolden] at hro
    cases hro
  cases hallow with
  | lvremove | lvcreate | fill => exact absurd hholds.facts.2 hsealed
  | filled => exact absurd hholds.facts.2.1 hsealed
  | «seal» =>
    obtain ⟨-, bytes, -, hfalse⟩ := hholds.facts
    rw [hgolden] at hfalse
    cases hfalse
    cases hro
  | acquire | rename | convert | converted =>
    simp only [ImageOp.exec]
    split <;> exact ⟨golden, hgolden, hro⟩
  | _ => exact ⟨golden, hgolden, hro⟩

/-- Without its lock, a call only reads, but for taking it. -/
theorem agree_of_unlocked {p : String} (hallow : Allows w call g o) (hg : g.locked = false)
    (hlock : ∀ id imageRef, o ≠ .lock id imageRef) : Agree p s (o.exec w s).1 := by
  cases hallow with
  | peek | golden | size => exact agree_of_eq rfl rfl rfl
  | lock => exact absurd rfl (hlock _ _)
  | attr h => rcases h with rfl | rfl <;> cases hg
  | release h =>
    cases g with
    | writable | stored => cases hg
    | _ => cases h
  | unlock h =>
    cases g with
    | outside | ready => cases h
    | _ => cases hg
  | _ => cases hg

/-- **Frame.** What another call relies on survives the step. -/
theorem frame (hinv : Inv w started s) (hcall : call ∈ started) (hother : other ∈ started) (hid : call.id ≠ other.id)
    (hallow : Allows w call g o) (hholds : Holds w call g s)
    (hlock : ∀ id imageRef, o = .lock id imageRef → s.locks imageRef = none) (hrelies : Holds w other g' s) :
    Holds w other g' (o.exec w s).1 := by
  by_cases hkey : other.key = call.key
  · have href : other.imageRef = call.imageRef := hinv.unique call hcall other hother hkey
    by_cases hlocked : g'.locked = true
    · -- the other call holds the lock, so this one does not
      have hheld : s.locks call.imageRef = some other.id := href ▸ hrelies.lock hlocked
      have hg : g.locked = false := by
        cases hg : g.locked with
        | false => rfl
        | true => exact absurd (Option.some.inj ((hholds.lock hg).symm.trans hheld)) hid
      refine hrelies.congr (agree_of_unlocked hallow hg ?_)
      rintro id imageRef rfl
      cases hallow
      rw [hlock _ _ rfl] at hheld
      cases hheld
    · cases g' with
      | outside => exact ⟨nofun, nofun, trivial⟩
      | ready =>
        have hstored : Stored call.key s := hkey ▸ hrelies.facts
        refine ⟨nofun, nofun, ?_⟩
        show Stored other.key _
        rw [hkey]
        exact hstored.exec hallow hholds
      | _ => exact absurd rfl hlocked
  · exact hrelies.congr (agree_exec hallow hholds hkey)

end Frame

/-! ## Runs -/

/-- What a run has to keep clear of: references with one key, a restart while a qcow2 is torn, and a golden volume
    that the fast path finds before it is read-only. -/
def Calm (c : Pool) : Event Call → Prop
  | .spawn call => ∀ other ∈ c.started,
      imageRefToPrefix other.imageRef = imageRefToPrefix call.imageRef → other.imageRef = call.imageRef
  | .crash => ∀ call ∈ c.started, c.shared.disk.look ⟨imageRefToPrefix call.imageRef, .qcow2⟩ ≠ some .torn
  | .step i =>
    match c.nextOp (.step i) with
    | some (_, .lvPathExists lv) => (c.shared.golden lv).all (·.readOnly) = true
    | _ => True
  | .drop _ => True

instance (c : Pool) (e : Event Call) : Decidable (Calm c e) := by
  unfold Calm
  split
  · infer_instance
  · infer_instance
  · split <;> infer_instance
  · infer_instance

def outline (w : ImageWorld) : Outline Call ImageOp ImageOp.Resp ImageStore Stage Unit where
  aux := fun _ _ _ _ => ()
  inv := fun started _ s => Inv w started s
  holds := fun call g _ s => Holds w call g s
  apart := fun call other => call.id ≠ other.id

/-- A step of a run: the lock it takes is free, and it keeps clear. -/
def Taken (c : Pool) (e : Event Call) : Prop := held c e = false ∧ Calm c e

section Sound

variable {w : ImageWorld} {c c' : Pool} {γ : Unit} {i : Nat} {call : Call} {g : Stage} {o : ImageOp}

theorem lock_free (h : (outline w).Fires (discipline w) Taken c γ i call g o) :
    ∀ id imageRef, o = .lock id imageRef → c.shared.locks imageRef = none := by
  rintro id imageRef rfl
  have hheld := h.cond.1
  simp only [held, h.op] at hheld
  exact Option.not_isSome_iff_eq_none.mp (Bool.eq_false_iff.mp hheld)

theorem golden_sealed (h : (outline w).Fires (discipline w) Taken c γ i call g o) :
    ∀ lv, o = .lvPathExists lv → ∀ golden, c.shared.golden lv = some golden → golden.readOnly = true := by
  rintro lv rfl golden hgolden
  have hcalm := h.cond.2
  simp only [Calm, h.op, hgolden] at hcalm
  exact hcalm

theorem outline_sound (w : ImageWorld) : (outline w).Sound (discipline w)
    { machine w with fresh := fun _ _ => false, reboot := id } Taken where
  governs := governs w
  symm := fun h => h.symm
  spawn := nofun
  exec := by
    intro c γ i call g o h
    have hown := exec_own h.inv h.known h.allowed h.holds (lock_free h) (golden_sealed h)
    refine ⟨⟨h.inv.unique, fun p => ?_⟩, hown.2⟩
    by_cases hp : p = call.key
    · rw [hp]
      exact hown.1
    · exact (h.inv.stems p).congr (agree_exec h.allowed h.holds hp)
  frame := by
    intro c γ i call g o task g' h htask hapart _ hg'
    exact frame h.inv h.known (h.pool task (mem_of_mem_eraseIdx htask)) hapart h.allowed h.holds (lock_free h) hg'
  reboot := fun h => h
  reboot_holds := fun h => h

theorem StemOk.mono {s : ImageStore} {started : List Call} {p : String} (h : StemOk w started p s) (call : Call) :
    StemOk w (call :: started) p s where
  files := by
    intro ext bytes hkept hlook
    obtain ⟨other, hother, hgenuine⟩ := h.files ext bytes hkept hlook
    exact ⟨other, mem_cons_of_mem _ hother, hgenuine⟩
  boot := h.boot
  torn := by
    intro htear
    obtain ⟨other, hother, hlock⟩ := h.torn htear
    exact ⟨other, mem_cons_of_mem _ hother, hlock⟩
  populated := h.populated
  whole := h.whole

/-- A new call is the first with its key, or has the reference of the others. -/
theorem Inv.spawn {s : ImageStore} {started : List Call} (h : Inv w started s)
    (hcalm : ∀ other ∈ started, other.key = call.key →
      other.imageRef = call.imageRef) : Inv w (call :: started) s where
  unique := by
    intro a ha b hb hkey
    rcases mem_cons.mp ha with rfl | ha'
    · rcases mem_cons.mp hb with rfl | hb'
      · rfl
      · exact hcalm b hb' hkey
    · rcases mem_cons.mp hb with rfl | hb'
      · exact (hcalm a ha' hkey.symm).symm
      · exact h.unique a ha' b hb' hkey
  stems := fun p => (h.stems p).mono call

/-- The agent restarts while no qcow2 is torn. -/
theorem Inv.reboot {s : ImageStore} {started : List Call} (h : Inv w started s)
    (hcalm : ∀ call ∈ started, s.disk.look ⟨call.key, .qcow2⟩ ≠ some .torn) :
    Inv w started ((machine w).reboot s) where
  unique := h.unique
  stems := by
    intro p
    have hp := h.stems p
    refine ⟨hp.files, hp.boot, fun htear => ?_, hp.populated, hp.whole⟩
    obtain ⟨call, hcall, hkey, -⟩ := hp.torn htear
    exact absurd htear (hkey ▸ hcalm call hcall)

theorem annotated_step {e : Event Call} (hc : (outline w).Annotated (discipline w) c γ) (hcalm : Calm c e)
    (hstep : step w c e = some c') : ∃ γ', (outline w).Annotated (discipline w) c' γ' := by
  obtain ⟨hheld, hstep⟩ := step_cases hstep
  refine Outline.annotated_guarded (outline_sound w) ?_ ?_ hc ⟨hheld, hcalm⟩ hstep
  · intro c γ call hc hspawn hfresh
    refine ⟨hc.inv.spawn hspawn.2, ⟨nofun, nofun, trivial⟩, fun other hother heq => ?_⟩
    exact of_decide_eq_true hfresh (mem_map.mpr ⟨other, hother, heq⟩)
  · intro c γ hc hcrash
    refine ⟨hc.inv.reboot hcrash.2, fun task _ hfinished g hat hg => ?_⟩
    -- a call that has returned holds no lock
    have hunlocked : g.locked = false := by
      obtain ⟨call, prog⟩ := task
      cases prog with
      | ret r => exact hat.1
      | call o k => cases hfinished
    refine ⟨fun h => ?_, fun h => hg.untorn h, hg.facts.congr (fun _ => rfl) (fun _ => rfl) rfl⟩
    rw [hunlocked] at h
    cases h

theorem inv_empty : Inv w [] {} where
  unique := nofun
  stems := fun _ =>
    ⟨nofun, nofun, nofun, nofun,
      nofun⟩

/-- A call that knows the golden volume to be ready knows the whole image. -/
theorem complete_of_stored {started : List Call} {s : ImageStore} (hinv : Inv w started s) (hcall : call ∈ started)
    (hstored : Stored call.key s) (n : Nat) :
    Complete w call.imageRef (cached w call.imageRef n) s := by
  have hstem := hinv.stems call.key
  obtain ⟨golden, hgolden, hro⟩ := hstored
  have hfile : ∀ ext bytes, ext.kept = true → s.disk.look ⟨call.key, ext⟩ = some (.whole bytes) →
      Genuine w call.imageRef ext bytes := by
    intro ext bytes hkept hlook
    obtain ⟨other, hother, hkey, hgenuine⟩ := hstem.files ext bytes hkept hlook
    exact hinv.unique call hcall other hother hkey ▸ hgenuine
  obtain ⟨kernel, hkernel⟩ := hstem.populated golden hgolden .vmlinuz rfl
  obtain ⟨initrd, hinitrd⟩ := hstem.populated golden hgolden .initrd rfl
  obtain ⟨qcow2, hqcow2, hcontent⟩ := hstem.whole golden hgolden hro
  refine ⟨⟨_, kernel, rfl, hkernel, hfile _ _ rfl hkernel⟩, ⟨_, initrd, rfl, hinitrd, hfile _ _ rfl hinitrd⟩,
    qcow2, hqcow2, hfile _ _ rfl hqcow2, ?_⟩
  show s.golden call.lv = _
  rw [hgolden, ← hro, ← hcontent]

end Sound

/-- **A cached image is complete**, from its return on, in every run that keeps clear of references with one key, of
    restarts while a qcow2 is torn, and of golden volumes that are found before they are read-only. -/
theorem cached_images_complete {w : ImageWorld} {es : List (Event Call)} {c : Pool}
    (hcalm : Along (step w) Calm initial es) (hrun : run (step w) initial es = some c) :
    ∀ imageRef img, Returned c imageRef img → Complete w imageRef img c.shared := by
  obtain ⟨γ, hc⟩ : ∃ γ, (outline w).Annotated (discipline w) c γ :=
    run_invariant (J := fun c => ∃ γ, (outline w).Annotated (discipline w) c γ)
      (fun ⟨_, hc⟩ hcalm hstep => annotated_step hc hcalm hstep) ⟨(), Outline.annotated_empty inv_empty⟩ hcalm hrun
  rintro imageRef img ⟨⟨call, prog⟩, htask, rfl, hret⟩
  obtain ⟨g, hat, hholds⟩ := hc.phases _ htask
  cases hret
  obtain ⟨rfl, n, himg⟩ := hat.2 img rfl
  rw [himg]
  exact complete_of_stored hc.inv (hc.known _ htask) hholds.facts n

/-- A call that a restart ends after `n` steps, and the same call again. -/
def callAgain (n m : Nat) : List (Event Call) :=
  .spawn ⟨0, "node:v1.0"⟩ :: List.replicate n (.step 0) ++ .crash :: .spawn ⟨1, "node:v1.0"⟩ ::
    List.replicate m (.step 0)

/-- A second call for the same reference, started when the first one has taken `n` steps. -/
def callBeside (n m : Nat) : List (Event Call) :=
  .spawn ⟨0, "node:v1.0"⟩ :: List.replicate n (.step 0) ++ .spawn ⟨1, "node:v1.0"⟩ :: List.replicate m (.step 1)

/-- The restart falls into the kernel's download. -/
theorem cached_images_complete_again :
    Along (step toyWorld) Calm initial (callAgain 16 29) ∧
      run (step toyWorld) initial (callAgain 16 29) =
        some (after (step toyWorld) initial (callAgain 16 29)) ∧
      Complete toyWorld "node:v1.0" (cached toyWorld "node:v1.0" 1)
        (after (step toyWorld) initial (callAgain 16 29)).shared := by
  have hcalm : Along (step toyWorld) Calm initial (callAgain 16 29) := by decide +kernel
  have htaken : (run (step toyWorld) initial (callAgain 16 29)).isSome = true := by decide +kernel
  have hrun := run_eq_after htaken
  refine ⟨hcalm, hrun, cached_images_complete hcalm hrun _ _ (returned_of_mem ?_)⟩
  have hanswers : (after (step toyWorld) initial (callAgain 16 29)).tasks.map
      (fun task => (task.tag.imageRef, answerOf task.prog)) =
        [("node:v1.0", some (cached toyWorld "node:v1.0" 1))] := by decide +kernel
  rw [hanswers]
  exact mem_cons_self

/-- Without any restart, a call finds the golden volume that another one has only just created. And a restart in the
    middle of the conversion leaves a qcow2 that the next call takes for a whole one. -/
theorem cached_image_torn :
    (∃ es c img, .crash ∉ es ∧ run (step toyWorld) initial es = some c ∧
      Returned c "node:v1.0" img ∧ ¬ Complete toyWorld "node:v1.0" img c.shared) ∧
    (∃ es c img, run (step toyWorld) initial es = some c ∧
      (∀ task ∈ c.tasks, task.prog.finished = true) ∧
      Returned c "node:v1.0" img ∧ ¬ Complete toyWorld "node:v1.0" img c.shared) := by
  constructor
  · have htaken : (run (step toyWorld) initial (callBeside 29 5)).isSome = true := by decide +kernel
    have hanswers : (after (step toyWorld) initial (callBeside 29 5)).tasks.map
        (fun task => (task.tag.imageRef, answerOf task.prog)) =
          [("node:v1.0", none), ("node:v1.0", some (cached toyWorld "node:v1.0" 1))] := by decide +kernel
    have hgolden : (after (step toyWorld) initial (callBeside 29 5)).shared.golden "image-node_v1_0" =
        some ⟨false, .torn⟩ := by decide +kernel
    refine ⟨callBeside 29 5, _, cached toyWorld "node:v1.0" 1, by simp [callBeside], run_eq_after htaken,
      returned_of_mem ?_, fun hcomplete => ?_⟩
    · rw [hanswers]
      exact mem_cons_of_mem _ mem_cons_self
    · obtain ⟨_, -, -, h⟩ := hcomplete.golden
      cases hgolden.symm.trans h
  · have htaken : (run (step toyWorld) initial (callAgain 10 29)).isSome = true := by decide +kernel
    have hanswers : (after (step toyWorld) initial (callAgain 10 29)).tasks.map
        (fun task => (task.tag.imageRef, answerOf task.prog)) =
          [("node:v1.0", some (cached toyWorld "node:v1.0" 1))] := by decide +kernel
    have htorn : (after (step toyWorld) initial (callAgain 10 29)).shared.disk.look ⟨"node_v1_0", .qcow2⟩ =
        some .torn := by decide +kernel
    refine ⟨callAgain 10 29, _, cached toyWorld "node:v1.0" 1, run_eq_after htaken, by decide +kernel,
      returned_of_mem ?_, fun hcomplete => ?_⟩
    · rw [hanswers]
      exact mem_cons_self
    · obtain ⟨_, h, -⟩ := hcomplete.golden
      cases htorn.symm.trans h

end Images

end BasisCell.Agent
