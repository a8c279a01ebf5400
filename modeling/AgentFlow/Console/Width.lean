import AgentFlow.Text.CodePoint

/-!
# Cells of a terminal

A terminal shows most characters in one cell.  Control characters and combining marks take none, and
the ideographs, syllables and pictures of East Asian width take two.
-/

namespace AgentFlow

namespace Console

def zeroRanges : Text.Ranges := .ofPacked [
  0x0d1bd5d2b30bdf4bf1ed56ec3e410111110f65b0b010e6c0b60be17152113d3010d0c6bd1b0f8890c43181214e32,
  0xf2167e2f7f421b716b01c92f6016212290b01c6022f6014412230d0130b12f60171212c01c2512f6016212272b01,
  0xd00f94321390e04f5016121371b11c92f6016121371b11b50b23f5116121390b01c92bb00451017b81ba1026b27b,
  0xd8028b16bb31c70101041e9b9115b01d590be0b9c3342122633b3b110b03db4cd9fe92cde63c82c91d01ba4d190e,
  0x54bf71d40bf8b14b1dd94f791c820e8d0e94e7b6d88b22d0b2f6b3e8b9cd221c0406022db8ba3bce34c46e9419bd,
  0x6d2bcdb02cc10bd6d1bdb45be51cbfee4319d21bc01ed203040c3440bc31f0b7c6b7b30d87c5b2e43e7b3d60ba7b,
  0x3b2081e52f0012215110e1451df6711fbae2bb9eaff00cab7b5b6b5dc70ea92bcd30de60cc94edf021153e0240ce,
  0x51bdd33bac71bc02bb0b0e93ca22f3b4e1021b03e5b02040b00f02d6b3b61e40b22e8b38311bd2b16020cd7b1c13,
  0xf5116212290b012634db2b7c30bc1b9df5628c71bc2b6be6b2be1b4eb6b4ea5511231011cc162630c89e0613809b,
  0x0e6b5bae5717bc2c11b3ca2530111610ba641114fe739110e8634ccfb7b66b4bacef84f96cfc801f473bc10b11bd,
  0xada7113cbac0e52c2bda243c126d03cc82fcf9f44e980b40c241b4dee061b6261114be00ce06bab50ba13bcc83ce,
  0xd26be96bbdd64beafdac50d0bd5ca8df9aaaaaaaaaaaaaaaaaaaaaaaaaaaaaaaaaaaaaaaaaaaaaaaaaaaaaaaaaaa]

def wideRanges : Text.Ranges := .ofPacked [
  0xcaad2bd5cadd81b31db033020bce11c11f0b1e30b90b3081b71518050c10711040207041c80d50104210ba12c40b,
  0x40ccb91f1040cbd0c51bc8b2dd3c6f76b42bc54be05e21bd31bc3b1e71d98dbda3ba4bebdb63f4dbd7c8bee3fbab,
  0x1dfec0bcd1cba49c2d41b813cc9bd5ca76cbbde53c8cfab58dcd7e28eaef5316111ef0b50c9220b438bad5bbbcc4,
  0x0dc20db0029be12b3e34871b45cd4d2b281ba91c1b2e244b2b630325ba2101da62ba2b331c3b80c61b30bc6bc4e8,
  0xba960322243b1178de7b140ee3e6191da4bf2b2387e5168b34878ddc7facab32facab3aaaaaaaaaaaaaaaaaaaaaa]

end Console

def CodePoint.cells (c : CodePoint) : Nat :=
  let n := c.toNat
  if 0x20 ≤ n && n < 0x7F then 1
  else if Console.zeroRanges.contains n then 0
  else if Console.wideRanges.contains n then 2
  else 1

def Text.cells (t : Text) : Nat := t.foldl (fun total c => total + c.cells) 0

end AgentFlow
