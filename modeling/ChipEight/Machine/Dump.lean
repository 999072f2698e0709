import ChipEight.Machine

namespace ChipEight

/-!
The program memory as text, for somebody who looks for a fault.

Bytes are shown in pairs behind their address, as a listing shows words.  The end of the range
is computed in 64 bits; a count so large that it wraps has no dump.
-/

namespace Machine

def dumpFrom (address : Nat) : List UInt8 -> String
  | [] => ""
  | [byte] => Hex.padded 4 address ++ ": " ++ Hex.byte byte ++ "\n"
  | first :: second :: rest =>
      Hex.padded 4 address ++ ": " ++ Hex.byte first ++ " " ++ Hex.byte second ++ "\n"
        ++ dumpFrom (address + 2) rest

/-- The first bytes of program memory, at most `count` of them, as text. -/
def dumpMemory? {G : Type} (machine : Machine G) (count : UInt64) : Option String :=
  let stop := min (UInt64.ofNat loadAddress + count).toNat Memory.size
  if loadAddress ≤ stop then
    some (dumpFrom loadAddress (machine.cpu.memory.slice loadAddress stop))
  else none

end Machine
end ChipEight
