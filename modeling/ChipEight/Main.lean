import ChipEight.Application

/-!
The program as it is called: the command line, answered by the files, the clock and the output of
the machine it runs on.
-/

namespace ChipEight
namespace Console

def fileErrorText : IO.Error -> String
  | .noFileOrDirectory .. => "No such file or directory (os error 2)"
  | error => toString error

def wordOfBytes (bytes : ByteArray) (place : Nat) : UInt32 :=
  (List.range 4).foldl (fun word i => (word <<< 8) ||| (bytes[4 * place + i]?.getD 0).toUInt32) 0

def answer : (question : Host.Question) -> IO (Host.Answer question)
  | .bytesOf path => do
      try
        return .ok (← IO.FS.readBinFile path).toList
      catch error =>
        return .error (fileErrorText error)
  | .missingTerminal => return "No such device or address (os error 6)"
  | .entropy => do
      let bytes ← IO.getRandomBytes 32
      return Vector.ofFn (fun i => wordOfBytes bytes i.val)
  | .print text => IO.print text
  | .now => return Int.ofNat (← IO.monoNanosNow)
  | .sleep nanoseconds => IO.sleep (UInt32.ofNat ((nanoseconds + 999999) / 1000000))
  | .report event =>
      if Severity.warn.admits event.severity then IO.println event.fullLine else return ()

/-- Hold a conversation with the command until it is over. -/
partial def converse {R : Type} : Dialogue Host.Answer R -> IO R
  | .done result => return result
  | .ask question resume => do converse (resume (← answer question))

def passes : Nat := Nat.pow 2 64

end Console
end ChipEight

def main (arguments : List String) : IO UInt32 := do
  return UInt32.ofNat (← ChipEight.Console.converse
    (ChipEight.Application.commandLine ChipEight.Console.passes arguments))
