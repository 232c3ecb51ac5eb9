import DeviceAuth.Storage.Directory
import DeviceAuth.Storage.Memory

/-! Storage under observation. The calls that change the store are recorded, and a
call to come can be made to fail before it reaches the store. -/

namespace DeviceAuth

inductive AnyStore where
  | memory (memory : Memory)
  | directory (directory : Directory)

namespace AnyStore

private def onMemory {α : Type} (answer : α × Memory) : α × AnyStore :=
  (answer.1, .memory answer.2)

private def onDirectory {α : Type} (answer : α × Directory) : α × AnyStore :=
  (answer.1, .directory answer.2)

instance : Backend AnyStore where
  get location
    | .memory held => onMemory (Backend.get location held)
    | .directory held => onDirectory (Backend.get location held)
  set location value
    | .memory held => onMemory (Backend.set location value held)
    | .directory held => onDirectory (Backend.set location value held)
  remove location
    | .memory held => onMemory (Backend.remove location held)
    | .directory held => onDirectory (Backend.remove location held)
  commit space
    | .memory held => onMemory (Backend.commit space held)
    | .directory held => onDirectory (Backend.commit space held)

def look? (location : Location) : AnyStore → Option Octets
  | .memory held => held.contents.get? location
  | .directory held => (held.read location).toOption

def setFailing (writes reads : Option Bool) : AnyStore → AnyStore
  | .memory held =>
      .memory { held with
        failWrites := writes.getD held.failWrites
        failReads := reads.getD held.failReads }
  | .directory held => .directory held

def size? : AnyStore → Option Nat
  | .memory held => some held.contents.size
  | .directory _ => none

def root? : AnyStore → Option String
  | .memory _ => none
  | .directory held => some held.root

end AnyStore

inductive StoreCall where
  | set (location : Location)
  | remove (location : Location)
  | commit (space : String)
deriving DecidableEq, Repr

structure CallRecord where
  call : StoreCall
  succeeded : Bool
deriving DecidableEq, Repr

namespace CallRecord

def text (record : CallRecord) : String :=
  let text :=
    match record.call with
    | .set location => "set " ++ location.text
    | .remove location => "remove " ++ location.text
    | .commit space => "commit " ++ space
  if record.succeeded then text else text ++ "!"

end CallRecord

structure Monitored (σ : Type) where
  store : σ
  calls : List CallRecord := []
  touched : List Location := []
  writesToFailure : Nat := 0
  readsToFailure : Nat := 0

namespace Monitored

def scheduled : String := "scheduled failure"

def touch {σ : Type} (location : Location) (monitored : Monitored σ) : Monitored σ :=
  { monitored with touched := monitored.touched.insert location }

def failLater {σ : Type} (write read : Option Nat) (monitored : Monitored σ) : Monitored σ :=
  { monitored with
    writesToFailure := write.getD monitored.writesToFailure
    readsToFailure := read.getD monitored.readsToFailure }

private def write {σ : Type} (call : StoreCall) (location : Location)
    (perform : σ → Except StoreFailure Unit × σ) (monitored : Monitored σ) :
    Except StoreFailure Unit × Monitored σ :=
  let (answer, store) :=
    if monitored.writesToFailure = 1 then
      (.error (.write location scheduled), monitored.store)
    else perform monitored.store
  let succeeded := match answer with
    | .ok () => true
    | .error _ => false
  (answer, { monitored with
    store := store
    calls := ⟨call, succeeded⟩ :: monitored.calls
    writesToFailure := monitored.writesToFailure - 1 })

instance {σ : Type} [Backend σ] : Backend (Monitored σ) where
  get location monitored :=
    let (answer, store) :=
      if monitored.readsToFailure = 1 then
        (.error (.read location scheduled), monitored.store)
      else Backend.get location monitored.store
    (answer, { monitored with
      store := store
      readsToFailure := monitored.readsToFailure - 1 })
  set location value monitored :=
    write (.set location) location (Backend.set location value) (monitored.touch location)
  remove location monitored :=
    write (.remove location) location (Backend.remove location) (monitored.touch location)
  commit space := write (.commit space) (Backend.wholeSpace space) (Backend.commit space)

end Monitored

end DeviceAuth
