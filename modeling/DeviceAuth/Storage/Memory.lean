import DeviceAuth.Storage.Backend
import DeviceAuth.Storage.Contents

/-! Storage in memory, for tests and for sessions that leave nothing behind. Reads
and writes can be made to fail. -/

namespace DeviceAuth

structure Memory where
  contents : Contents := {}
  failReads : Bool := false
  failWrites : Bool := false

namespace Memory

def injected : String := "injected failure"

instance : Backend Memory where
  get location memory :=
    if memory.failReads then (.error (.read location injected), memory)
    else (.ok (memory.contents.get? location), memory)
  set location value memory :=
    if memory.failWrites then (.error (.write location injected), memory)
    else
      match Backend.refusal? location value with
      | some reason => (.error (.write location reason), memory)
      | none => (.ok (), { memory with contents := memory.contents.set location value })
  remove location memory :=
    if memory.failWrites then (.error (.write location injected), memory)
    else (.ok (), { memory with contents := memory.contents.remove location })
  commit space memory :=
    if memory.failWrites then (.error (.write (Backend.wholeSpace space) injected), memory)
    else (.ok (), memory)

end Memory

end DeviceAuth
