import Mathlib.Data.Nat.Notation
import Mathlib.Logic.Function.Basic
import Kapsl.Lib.Attempt

/-!
# Lib/AtomicFile — a file that is replaced as a whole, or not at all

A disk is its files and all states it went through: a process that dies leaves one of them.  A file
is stable once its content was synchronized; what is not stable may be anything after a power cut.
`replaceFile` writes a temporary file, synchronizes it and renames it over its destination, and
removes it when anything fails.  Every call of the system may fail.

* `replaceFile_ends` — the destination has its new content, stable, or everything is as it was but
  for a temporary file that could not be removed; and so it is in every state on the way.
* `replaceOutput_ends` — what held of the outputs of a program holds until the new content is there.
-/

namespace AtomicFile

open Attempt

variable {π ε : Type} [DecidableEq π]

/-- A file, and whether its content is on stable storage. -/
structure File where
  content : List UInt8
  stable : Bool
  deriving DecidableEq

/-- The files there are, by their paths. -/
abbrev Files (π : Type) := π → Option File

/-- The files, and what they were before, latest first. -/
structure Disk (π : Type) where
  files : Files π
  past : List (Files π)

namespace Disk

/-- The files change. -/
def change (disk : Disk π) (files : Files π) : Disk π := { files, past := disk.files :: disk.past }

/-- Create a file, change it, or remove it. -/
def put (disk : Disk π) (path : π) (file : Option File) : Disk π :=
  disk.change (Function.update disk.files path file)

/-- `os.replace`. -/
def rename (disk : Disk π) (source destination : π) : Disk π :=
  disk.change (Function.update (Function.update disk.files destination (disk.files source))
    source none)

/-- These files are there, or were. -/
def Saw (disk : Disk π) (files : Files π) : Prop := files = disk.files ∨ files ∈ disk.past

@[simp] theorem put_files (disk : Disk π) (path : π) (file : Option File) :
    (disk.put path file).files = Function.update disk.files path file := rfl

omit [DecidableEq π] in
theorem saw_change {disk : Disk π} {files f : Files π} :
    (disk.change files).Saw f ↔ f = files ∨ disk.Saw f := by
  simp only [Saw, change, List.mem_cons]

end Disk

/-- What the system answers to the calls of one replacement: the name of the temporary file, and
for each call after it whether it fails; a write may fail after some of the bytes. -/
structure Calls (π ε : Type) where
  create : Files π → Except ε π
  write : Option (ε × ℕ)
  sync : Option ε
  close : Option ε
  replace : Option ε
  unlink : Option ε

/-- Some call before the end of the replacement fails. -/
def Calls.Fails (calls : Calls π ε) : Prop :=
  (∃ files e, calls.create files = .error e) ∨ calls.write ≠ none ∨ calls.sync ≠ none ∨
    calls.close ≠ none ∨ calls.replace ≠ none

/-- No call fails, but where the temporary file is there already. -/
def Calls.quiet (temporary : π) (taken : ε) : Calls π ε where
  create files := if files temporary = none then .ok temporary else .error taken
  write := none
  sync := none
  close := none
  replace := none
  unlink := none

omit [DecidableEq π] in
theorem Calls.create_quiet {temporary created : π} {taken : ε} {files : Files π}
    (h : (quiet temporary taken).create files = .ok created) :
    files created = none ∧ created = temporary := by
  simp only [quiet] at h
  split at h
  · next hnone =>
    obtain rfl := Except.ok.inj h
    exact ⟨hnone, rfl⟩
  · cases h

/-- A call that changes nothing by itself. -/
def call (failure : Option ε) : Attempt ε (Disk π) Unit := lift (failure.elim (.ok ()) .error)

/-- Write, synchronize and close the temporary file, and put it in the place of the destination.
Where the writer does not synchronize, the content is not `durable`. -/
def fill (durable : Bool) (calls : Calls π ε) (temporary destination : π) (content : List UInt8) :
    Attempt ε (Disk π) Unit := do
  update (·.put temporary (some ⟨(calls.write.elim content fun failure => content.take failure.2),
    false⟩))
  call (calls.write.map Prod.fst)
  call (if durable then calls.sync else none)
  update (·.put temporary (some ⟨content, durable⟩))
  call calls.close
  call calls.replace
  update (·.rename temporary destination)

/-- Replace the content of a file. -/
def replaceFile (durable : Bool) (calls : Calls π ε) (destination : π) (content : List UInt8) :
    Attempt ε (Disk π) Unit := do
  let disk ← ask id
  let temporary ← lift (calls.create disk.files)
  update (·.put temporary (some ⟨[], false⟩))
  tryCatch (fill durable calls temporary destination content) fun error => do
    call calls.unlink
    update (·.put temporary none)
    throw error

/-! ## What a replacement leaves -/

section

variable {disk start : Disk π} {temporary destination : π} {content : List UInt8} {durable : Bool}

/-- The files but for a temporary one. -/
def SameBut (temporary : π) (f g : Files π) : Prop := ∀ path ≠ temporary, f path = g path

/-- The files with the new content at its destination. -/
def replaced (files : Files π) (destination : π) (content : List UInt8) (durable : Bool) : Files π :=
  Function.update files destination (some ⟨content, durable⟩)

/-- **On the way**: a disk whose states since the start are those of the start but for the temporary
file, or have the destination replaced. -/
structure Along (start : Disk π) (temporary destination : π) (content : List UInt8)
    (durable : Bool) (disk : Disk π) : Prop where
  saw : ∀ f, disk.Saw f → start.Saw f ∨ SameBut temporary f start.files ∨
    f = replaced start.files destination content durable

theorem along_refl : Along start temporary destination content durable start :=
  ⟨fun _ h => .inl h⟩

/-- The temporary file changes. -/
theorem Along.put (h : Along start temporary destination content durable disk)
    (hsame : SameBut temporary disk.files start.files) (file : Option File) :
    Along start temporary destination content durable (disk.put temporary file) ∧
      SameBut temporary (disk.put temporary file).files start.files := by
  have hput : SameBut temporary (disk.put temporary file).files start.files := by
    intro path hpath
    rw [Disk.put_files, Function.update_of_ne hpath]
    exact hsame path hpath
  refine ⟨⟨fun f hf => ?_⟩, hput⟩
  rcases Disk.saw_change.mp hf with rfl | hf
  · exact .inr (.inl hput)
  · exact h.saw f hf

/-- The rename puts the content of the temporary file at the destination, and nothing else. -/
theorem rename_files (hsame : SameBut temporary disk.files start.files)
    (hfresh : start.files temporary = none) (hne : temporary ≠ destination)
    (hfile : disk.files temporary = some ⟨content, durable⟩) :
    (disk.rename temporary destination).files = replaced start.files destination content durable := by
  funext path
  show Function.update (Function.update disk.files destination (disk.files temporary)) temporary
    none path = _
  rw [replaced]
  by_cases htemporary : path = temporary
  · subst htemporary
    rw [Function.update_self, Function.update_of_ne hne, hfresh]
  · rw [Function.update_of_ne htemporary]
    by_cases hdestination : path = destination
    · subst hdestination
      rw [Function.update_self, Function.update_self, hfile]
    · rw [Function.update_of_ne hdestination, Function.update_of_ne hdestination]
      exact hsame path htemporary

variable {calls : Calls π ε}

omit [DecidableEq π] in
/-- A call that fails leaves the disk as it is. -/
theorem Ends.bind_call {β : Type} {failure : Option ε} {f : Unit → Attempt ε (Disk π) β}
    {R : β → Disk π → Prop} {E : ε → Disk π → Prop} (hok : failure = none → Ends (f ()) disk R E)
    (herr : ∀ e, failure = some e → E e disk) : Ends (call failure >>= f) disk R E := by
  refine Ends.bind_lift (fun _ h => hok ?_) fun e h => herr e ?_
  · rcases failure with _ | e
    exacts [rfl, (nomatch h)]
  · rcases failure with _ | e'
    exacts [(nomatch h), congrArg some (Except.error.inj h)]

omit [DecidableEq π] in
theorem Ends.call {failure : Option ε} {Q : Unit → Disk π → Prop} {E : ε → Disk π → Prop}
    (hok : failure = none → Q () disk) (herr : ∀ e, failure = some e → E e disk) :
    Ends (AtomicFile.call failure) disk Q E := by
  rcases failure with _ | e
  · exact ends_of_exec_ok (a := ()) (v := disk) rfl (hok rfl)
  · exact ends_of_exec_error (e := e) (v := disk) rfl (herr e rfl)

/-- **The temporary file is filled and renamed**, or a call fails before the rename. -/
theorem fill_ends (h : Along start temporary destination content durable disk)
    (hsame : SameBut temporary disk.files start.files) (hfresh : start.files temporary = none)
    (hne : temporary ≠ destination) :
    Ends (fill durable calls temporary destination content) disk
      (fun _ disk' => calls.write = none ∧
        Along start temporary destination content durable disk' ∧
        disk'.files = replaced start.files destination content durable)
      (fun _ disk' => calls.Fails ∧ Along start temporary destination content durable disk' ∧
        SameBut temporary disk'.files start.files) := by
  rw [fill]
  have hwritten := h.put hsame
    (some ⟨(calls.write.elim content fun failure => content.take failure.2), false⟩)
  have hwriting : ∀ e, calls.write.map Prod.fst = some e → calls.Fails := by
    intro e he
    obtain ⟨failure, hfailure, -⟩ := Option.map_eq_some_iff.mp he
    exact .inr (.inl (hfailure ▸ Option.some_ne_none failure))
  have hsyncing : ∀ e, (if durable then calls.sync else none) = some e → calls.Fails := by
    intro e he
    obtain ⟨-, hsync⟩ := Option.ite_none_right_eq_some.mp he
    exact .inr (.inr (.inl (hsync ▸ Option.some_ne_none e)))
  refine Ends.bind_update (Ends.bind_call (fun hwrite => ?_) fun e he => ⟨hwriting e he, hwritten⟩)
  refine Ends.bind_call (fun _ => Ends.bind_update ?_) fun e he => ⟨hsyncing e he, hwritten⟩
  have hsynced := hwritten.1.put hwritten.2 (some ⟨content, durable⟩)
  refine Ends.bind_call (fun _ => ?_) fun e he =>
    ⟨.inr (.inr (.inr (.inl (he ▸ Option.some_ne_none e)))), hsynced⟩
  refine Ends.bind_call (fun _ => Ends.update ?_) fun e he =>
    ⟨.inr (.inr (.inr (.inr (he ▸ Option.some_ne_none e)))), hsynced⟩
  have hfiles := rename_files hsynced.2 hfresh hne (Function.update_self ..)
  refine ⟨Option.map_eq_none_iff.mp hwrite, ⟨fun f hf => ?_⟩, hfiles⟩
  rcases Disk.saw_change.mp hf with rfl | hf
  · exact .inr (.inr hfiles)
  · exact hsynced.1.saw f hf

/-- **A file is replaced as a whole, or not at all.**  When the call returns, the destination has
its new content, stable where it is durable; when it raises, some call failed and everything is as
before, but for the temporary file if removing it failed too; and whatever state a crash leaves, the
same is true of it. -/
theorem replaceFile_ends
    (htemporary : ∀ temporary, calls.create start.files = .ok temporary →
      start.files temporary = none ∧ temporary ≠ destination) :
    Ends (replaceFile durable calls destination content) start
      (fun _ disk => ∃ temporary, calls.create start.files = .ok temporary ∧ calls.write = none ∧
        Along start temporary destination content durable disk ∧
        disk.files = replaced start.files destination content durable)
      (fun _ disk => calls.Fails ∧ (disk = start ∨
        ∃ temporary, calls.create start.files = .ok temporary ∧
          Along start temporary destination content durable disk ∧
          SameBut temporary disk.files start.files ∧
          (calls.unlink = none → disk.files = start.files))) := by
  rw [replaceFile]
  refine Ends.bind_ask (Ends.bind_lift (fun temporary hcreate => ?_) fun e he =>
    ⟨.inl ⟨_, e, he⟩, .inl rfl⟩)
  obtain ⟨hfresh, hne⟩ := htemporary temporary hcreate
  have hstart : Along start temporary destination content durable start := along_refl
  have hcreated := hstart.put (fun _ _ => rfl) (some ⟨[], false⟩)
  refine Ends.bind_update (Ends.tryCatch ((fill_ends hcreated.1 hcreated.2 hfresh hne).mono
    (fun _ disk h => ⟨temporary, hcreate, h⟩) fun _ _ h => h) ?_)
  rintro error disk ⟨hfails, halong, hsame⟩
  refine Ends.bind_call (fun _ => Ends.bind_update (Ends.throw ⟨hfails, .inr ?_⟩)) fun e he =>
    ⟨hfails, .inr ?_⟩
  · have hremoved := halong.put hsame none
    refine ⟨temporary, hcreate, hremoved.1, hremoved.2, fun _ => ?_⟩
    funext path
    by_cases hpath : path = temporary
    · subst hpath
      rw [Disk.put_files, Function.update_self, hfresh]
    · exact hremoved.2 path hpath
  · exact ⟨temporary, hcreate, halong, hsame, fun hnone => nomatch hnone.symm.trans he⟩

end

/-! ## Outputs -/

section

variable {start middle disk : Disk π} {outputs : π → Prop} {P Q : Files π → Prop}

/-- A property of the outputs alone. -/
def OfOutputs (outputs : π → Prop) (P : Files π → Prop) : Prop :=
  ∀ f g : Files π, (∀ path, outputs path → f path = g path) → P f → P g

/-- Every state since `start` is one of these. -/
def Since (start : Disk π) (P : Files π → Prop) (disk : Disk π) : Prop :=
  ∀ f, disk.Saw f → start.Saw f ∨ P f

omit [DecidableEq π] in
theorem Since.refl : Since start P start := fun _ hf => .inl hf

omit [DecidableEq π] in
theorem Since.trans (h : Since middle P disk) (hmiddle : Since start Q middle)
    (hPQ : ∀ f, P f → Q f) : Since start Q disk :=
  fun f hf => (h f hf).elim (hmiddle f) fun hp => .inr (hPQ f hp)

/-- **Replacing an output** keeps what held of the outputs until the new content is there. -/
theorem replaceOutput_ends {calls : Calls π ε} {destination : π} {content : List UInt8}
    {durable : Bool} (hfresh : ∀ files temporary, calls.create files = .ok temporary →
      files temporary = none ∧ ¬outputs temporary)
    (hdestination : outputs destination) (hP : OfOutputs outputs P) (hstart : P disk.files) :
    Ends (replaceFile durable calls destination content) disk
      (fun _ disk' => calls.write = none ∧
        disk'.files = replaced disk.files destination content durable ∧
        Since disk (fun f => P f ∨ f = replaced disk.files destination content durable) disk')
      (fun _ disk' => calls.Fails ∧ P disk'.files ∧
        Since disk (fun f => P f ∨ f = replaced disk.files destination content durable) disk') := by
  have hsame : ∀ temporary, calls.create disk.files = .ok temporary → ∀ f,
      SameBut temporary f disk.files → P f := by
    intro temporary hcreate f hf
    refine hP _ _ (fun path hpath => (hf path ?_).symm) hstart
    rintro rfl
    exact (hfresh _ _ hcreate).2 hpath
  refine (replaceFile_ends fun temporary hcreate => ?_).mono ?_ ?_
  · refine ⟨(hfresh _ _ hcreate).1, ?_⟩
    rintro rfl
    exact (hfresh _ _ hcreate).2 hdestination
  · rintro _ disk' ⟨temporary, hcreate, hwrite, halong, hfiles⟩
    refine ⟨hwrite, hfiles, fun f hf => ?_⟩
    rcases halong.saw f hf with hf | hf | hf
    exacts [.inl hf, .inr (.inl (hsame _ hcreate f hf)), .inr (.inr hf)]
  · rintro _ disk' ⟨hfails, rfl | ⟨temporary, hcreate, halong, hfiles, -⟩⟩
    · exact ⟨hfails, hstart, .refl⟩
    · refine ⟨hfails, hsame _ hcreate _ hfiles, fun f hf => ?_⟩
      rcases halong.saw f hf with hf | hf | hf
      exacts [.inl hf, .inr (.inl (hsame _ hcreate f hf)), .inr (.inr hf)]

end

end AtomicFile
