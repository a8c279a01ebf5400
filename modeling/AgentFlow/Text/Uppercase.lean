import AgentFlow.Text.CodePoint

/-!
# Upper case

The full upper-case form of a code point may have several code points: sharp s becomes two letters
and a ligature becomes its parts.  The simple cases shift whole runs of code points, every one or
every second of them, by a fixed distance.
-/

namespace AgentFlow

namespace Text

/-- The runs of code points that steps lead to, from a number on: how many numbers lie before a run,
how far its last code point is from its first, the step, and the distance, which is doubled: an odd
number stands for one downwards. -/
def shiftsFrom (start : Nat) : List Nat → List (Nat × Nat × Nat × Int)
  | gap :: extent :: step :: doubled :: rest =>
    let first := start + gap
    let last := first + extent
    let distance : Int := if doubled % 2 = 0 then doubled / 2 else -((doubled + 1) / 2)
    (first, last, step, distance) :: shiftsFrom (last + 1) rest
  | _ => []

/-- Runs of code points with a one-character upper case: first, last, step and distance. -/
def upperShifts : List (Nat × Nat × Nat × Int) := shiftsFrom 0 (unpacked [
  0xbd7c51ba3f801eae6e2c21ba3161ba3001ea21e621101bbe314212b4212e4212421001bdf9001bad022212011301,
  0x15011201db43011001fc6301ec02421201140112011322120113011101bf25011001310110013101100131b42100,
  0x1cd71b6212011001310113d8213b6218011211beaad010114821001bdffc6001bdffc0001bdffc4001baf9001baf,
  0x1111bae9101bae3101bae5001badbad8301bae9001badbad0101baf3101badafc0001badbab6101baf7001bba100,
  0x1badbab6001bdfea6001badbab0201bba1101bdfeb8001bba5201bba7701bdfdd4201bbb5101badbab4001bbb530,
  0x1badafc4001bbb5001cb7011bbb3001cc1501bbb7b001badaee2001badaed6ce601ce8e32213011321ec0e601bb5,
  0x021bb31b61ba3001ba1081ba3001ca7011ca5101ca3001bf3301bd3001be7001b51c221001cf1001cd9001b4001d,
  0xf1101db120112011f2d11ba30b51cd91d2219f2212b221001c91bd421e9d71bd5bcaa9e21ceeb6221ceeb6cae051,
  0xb5baab801feec7001feec5001feea7011feea3001feea5001fedf1001feca1001fcdfd2ea001fcebe4301ddba8b6,
  0x01fcedc8bf4cc821501bf75bd421071b6851b6b071b6871b6851b6b162b6871b6811cc8031cf2011dc0011eb6011,
  0xde4011eb2f011b6b201baeaa9b711b6b411b6301b4baa001f5d3b51d14011cca3c51f1fba2e71bd51011301bdffe,
  0x9001bdffe3142160112011b0bd82182214011b2d71baeca7101baeca7501baeca7cccad5e421b9c621cb5b2213ba,
  0x021b0221282140114221001bd62b821b1b421422160115221c8011ccc001faf5c8bb91ffffc7bdfcb7c51ba3dcc9,
  0xd91bb9cb6d51bb9cd5b01bb71b41bb7161bb7111bb7eff5f01ca7bccc1d11ba3beaee8d11ba3ccdbb4d31ba7aaaa])

/-- Greek letters with an iota below, in runs of eight, and the capital letters that they become
before an iota. -/
def iotaRuns : List (Nat × Nat) := [
  (0x1F80, 0x1F08), (0x1F88, 0x1F08), (0x1F90, 0x1F28), (0x1F98, 0x1F28), (0x1FA0, 0x1F68),
  (0x1FA8, 0x1F68)]

def upperExpansions : List (Nat × List Nat) :=
  iotaRuns.flatMap (fun (small, capital) =>
    (List.range 8).map fun i => (small + i, [capital + i, 0x399])) ++ [
  (0xDF, [0x53, 0x53]), (0x149, [0x2BC, 0x4E]), (0x1F0, [0x4A, 0x30C]),
  (0x390, [0x399, 0x308, 0x301]), (0x3B0, [0x3A5, 0x308, 0x301]), (0x587, [0x535, 0x552]),
  (0x1E96, [0x48, 0x331]), (0x1E97, [0x54, 0x308]), (0x1E98, [0x57, 0x30A]),
  (0x1E99, [0x59, 0x30A]), (0x1E9A, [0x41, 0x2BE]), (0x1F50, [0x3A5, 0x313]),
  (0x1F52, [0x3A5, 0x313, 0x300]), (0x1F54, [0x3A5, 0x313, 0x301]), (0x1F56, [0x3A5, 0x313, 0x342]),
  (0x1FB2, [0x1FBA, 0x399]), (0x1FB3, [0x391, 0x399]), (0x1FB4, [0x386, 0x399]),
  (0x1FB6, [0x391, 0x342]), (0x1FB7, [0x391, 0x342, 0x399]), (0x1FBC, [0x391, 0x399]),
  (0x1FC2, [0x1FCA, 0x399]), (0x1FC3, [0x397, 0x399]), (0x1FC4, [0x389, 0x399]),
  (0x1FC6, [0x397, 0x342]), (0x1FC7, [0x397, 0x342, 0x399]), (0x1FCC, [0x397, 0x399]),
  (0x1FD2, [0x399, 0x308, 0x300]), (0x1FD3, [0x399, 0x308, 0x301]), (0x1FD6, [0x399, 0x342]),
  (0x1FD7, [0x399, 0x308, 0x342]), (0x1FE2, [0x3A5, 0x308, 0x300]), (0x1FE3, [0x3A5, 0x308, 0x301]),
  (0x1FE4, [0x3A1, 0x313]), (0x1FE6, [0x3A5, 0x342]), (0x1FE7, [0x3A5, 0x308, 0x342]),
  (0x1FF2, [0x1FFA, 0x399]), (0x1FF3, [0x3A9, 0x399]), (0x1FF4, [0x38F, 0x399]),
  (0x1FF6, [0x3A9, 0x342]), (0x1FF7, [0x3A9, 0x342, 0x399]), (0x1FFC, [0x3A9, 0x399]),
  (0xFB00, [0x46, 0x46]), (0xFB01, [0x46, 0x49]), (0xFB02, [0x46, 0x4C]),
  (0xFB03, [0x46, 0x46, 0x49]), (0xFB04, [0x46, 0x46, 0x4C]), (0xFB05, [0x53, 0x54]),
  (0xFB06, [0x53, 0x54]), (0xFB13, [0x544, 0x546]), (0xFB14, [0x544, 0x535]),
  (0xFB15, [0x544, 0x53B]), (0xFB16, [0x54E, 0x546]), (0xFB17, [0x544, 0x53D])]

end Text

namespace CodePoint

def toUpper (c : CodePoint) : Text :=
  let n := c.toNat
  match Text.upperExpansions.lookup n with
  | some codes => codes.map CodePoint.ofNat
  | none =>
    match Text.upperShifts.find? fun (first, last, step, _) =>
        first ≤ n && n ≤ last && (n - first) % step == 0 with
    | some (_, _, _, distance) => [CodePoint.ofNat (n + distance).toNat]
    | none => [c]

end CodePoint

def Text.toUpper (t : Text) : Text := t.flatMap CodePoint.toUpper

end AgentFlow
