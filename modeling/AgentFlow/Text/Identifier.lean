import AgentFlow.Text.Letter

/-!
# Identifiers

An identifier starts with a letter, an underscore or one of a few letter numbers and signs, and goes
on with such characters, digits and combining marks.  A few letters are left out because their
compatibility forms begin with something else.
-/

namespace AgentFlow

namespace Text

/-- Letters that cannot start an identifier. -/
def nonStarterRanges : Ranges := [
  (0x37A, 0x37A), (0xE33, 0xE33), (0xEB3, 0xEB3), (0x2E2F, 0x2E2F), (0xFC5E, 0xFC63),
  (0xFDFA, 0xFDFB), (0xFE70, 0xFE70), (0xFE72, 0xFE72), (0xFE74, 0xFE74), (0xFE76, 0xFE76),
  (0xFE78, 0xFE78), (0xFE7A, 0xFE7A), (0xFE7C, 0xFE7C), (0xFE7E, 0xFE7E), (0xFF9E, 0xFF9F)]

/-- The underscore, letter numbers and the few signs that can start an identifier. -/
def extraStarterRanges : Ranges := [
  (0x5F, 0x5F), (0x16EE, 0x16F0), (0x1885, 0x1886), (0x2118, 0x2118), (0x212E, 0x212E),
  (0x2160, 0x2182), (0x2185, 0x2188), (0x3007, 0x3007), (0x3021, 0x3029), (0x3038, 0x303A),
  (0xA6E6, 0xA6EF), (0x10140, 0x10174), (0x10341, 0x10341), (0x1034A, 0x1034A), (0x103D1, 0x103D5),
  (0x12400, 0x1246E)]

def continuerRanges : Ranges := .ofPacked [
  0xe89ca50bde4bf1c30eb14ec5e410111110bb2b0e8d060be1625211329c30d0c6bd1b0b59d3890c43181214e32ba0,
  0x7e2c31d2f421b716b0129b72f6016212290b0129b4022f6014412230c0b130b12f60171212c0129b0512f6016212,
  0x272b0129b80f94321390b49b64f5016121371b1129b72f6016121371b1129b63f5116121390b0129b72bb0045101,
  0x76921ba1017b2719bc7019b1529ba2169b10101041e9b9115b01d590be0b919b2342122633b3b11b4bfe3298cdc8,
  0x3c82c91d01ba4d19029d321b0cc30bf8b14b1b09ca8b0ba04f791c82b069c2b31b5e94e7b6b19b78b22d0b229e4b,
  0x3e8b98969bf821c0406022db8ba3bdd51b90ca3b2403b1bcdb02cc10bd6d1bdb45be51cbfdc59ba9049d21bc01ed,
  0x203040c3440bc31f0b7b096b7b3b0c87c5b2e43e7b3b59b10b09e7b3b208129d32f0012215110e1451df671129bd,
  0xcbe00cab7b5b6b531c42db29d70bd41bea50de60cc94ef39dee721153e0240ce51bdd3389baa91cd3b0e93ca22f3,
  0xb4d1b021b03e5b070e5962d6b31951e40b22e8b3831b1bc2b160ce0b15963f5116212290b012634db2b79940bc1b,
  0x9b29dd3628c71bc2b6b59bc1b289bc3b449ea2b4ce59bb0511231011b29bf962630c89e0613809b0e6b5bae5717b,
  0x69f6c11b3ca253011161089e84111489fc93bcfde59bc69d84f96c59cef301f473bc10b11bdada71cbac5e52c2bd,
  0xa24358726d03cc82dfd7e9bcd2f44e980b40c241b4dee061b6261114ec1699ff60ba1b3eaf46be9659cbbb89beae,
  0xead8df9aaaaaaaaaaaaaaaaaaaaaaaaaaaaaaaaaaaaaaaaaaaaaaaaaaaaaaaaaaaaaaaaaaaaaaaaaaaaaaaaaaaaa]

end Text

namespace CodePoint

def startsIdentifier (c : CodePoint) : Bool :=
  (c.isLetter && !Text.nonStarterRanges.contains c.toNat) ||
    Text.extraStarterRanges.contains c.toNat

def continuesIdentifier (c : CodePoint) : Bool :=
  c.startsIdentifier || Text.continuerRanges.contains c.toNat

end CodePoint

namespace Text

def isIdentifier : Text → Bool
  | [] => false
  | c :: rest => c.startsIdentifier && rest.all CodePoint.continuesIdentifier

end Text

end AgentFlow
