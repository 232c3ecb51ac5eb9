import DeviceAuth.Sealer

/-! The command line of the sealer. -/

open DeviceAuth

def blockEntries (block : Octets) : List Octets :=
  block.foldr
    (fun octet entries =>
      match entries with
      | entry :: rest => if octet = 0 then [] :: entries else (octet :: entry) :: rest
      | [] => if octet = 0 then [[]] else [[octet]])
    []

def variableOf? (entry : Octets) : Option (String × Octets) := do
  guard (entry.contains 0x3d)
  let name := entry.takeWhile (· ≠ 0x3d)
  let text ← Octets.toText? name
  pure (text, entry.drop (name.length + 1))

def readEnvironment : IO Environment := do
  let block ← IO.FS.readBinFile "/proc/self/environ"
  pure ⟨(blockEntries block.toList).filterMap variableOf?⟩

def main : IO UInt32 := do
  let environment ← readEnvironment
  let nonce ← IO.getRandomBytes Packet.nonceSize.toUSize
  let output := Sealer.run environment nonce.toList
  IO.print output.stdout
  IO.eprint output.stderr
  pure output.status.toUInt32
