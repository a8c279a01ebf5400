import AgentFlow.Text.Digit

/-!
# Letters and numerals

Letters are the code points of the general categories for upper, lower and title case, modifier and
other letters.  Alphanumeric are letters, digits, and other characters with a numeric value such as
a fraction or a Roman numeral.
-/

namespace AgentFlow

namespace Text

def letterRanges : Ranges := .ofPacked [
  0xba5c56c5e70b00405c21d01bbd74b1b447010ca941123106012101b91bc21cb88ce51d7206e0bb1c643e5e2d511b,
  0xd810b5171b0220b601c9c9bc8b10c4d291405c1409030c3c47b05c315b7e1f8f330b8079b5b547212c116103330b,
  0x60b3112b41b0085412c116111111d1310b92b68121c116111430b80b51c30b17212c116111430d0112b50b701532,
  0x1331101131323b1c20f27121c21b530c622021d0047121c2191430d1111b51b78121e020b605282c455b73c31810,
  0x26f8e711b26f8110141c3101911902410c13d20ba371d5c74bf5e2c00b65433031724b2b20b7d710502e21fd2132,
  0x610132e0132d2132610132b41f6132ba6d7b5b6bc5253beb92b61c55bb4677b7b3b8b4b7b4b212b5f1d5040ba7bc,
  0x8742d3105ba9b0d0e9c924b1e34c5f4c29f2bc20bd3e6b77f4c9b31b0e3c6d5e12b0d5287e222e131511305db1ba,
  0x4ed7252d725271010101d02f21610321633254b25216bf60b30b6b2be1040291034601010131b0235440f21bbce3,
  0xde86331b2d710502f570b6c29616161616161616bc00bbe91e24514bc5621bc9135e21bd3b7d1e8b5bcd2dabf1ba,
  0x4bebdb6ba7e52ec83b5b01c0e6b6d02ba9e982be22ba3511014c4b512131c2c9f1b4e9ba253011b1c7b0c2c5c87e,
  0x6c80b6419b041e0c3217c0c2303e91031242010c422b072b25252596161e21b36bf4c9fbab1b2c24e8dfcf2baa52,
  0xbe5d86b2450191b2141011111be7d3baa2b8ba32f3e0b1bf641cb4d6c56c5b1bc835252522d5b11c51b8111b42b3,
  0xd4ca2bac9c83e8e7d1b3b9176d7b0c92d547e8cd7b8d54d54d98f1b2b01b416111b01b41611ba7fb09c1b07c451e,
  0x118ba95201e311302c2b0c29d0ba5b811b0c1b0c5bb0f561ba40b53121c8e2c83c8d571c7c7f3b0c1b0b8b3b7bf0,
  0xbb2f5f0b3f0b3d5fe8e161bb8c8b008c1e2b7e6c0c7c2b2f2f7120b3e4d2c4c6d5c90208d430b2e7b43c1010d5b7,
  0x1c4bc4610131b4197e6d87212c116111430b80b24cd8f2b83c02d0e7c0110da4e6e13d6e7c00f9e2b30bb1c6d76d,
  0xa5e3bf6ba3d172027111c3b5010bd472d8b6010c80b0d970c10b1e5b90b8bb2ec381d6b70e9c9bf26111d7c10c55,
  0x111d1b40fc7b8da90bb9cdc1df0db5bbbf6bd6b5cff0bfbc9bde2dfff3bdc87d0b7bb8b7c9b8e7b63d1c05b8bfc8,
  0xba3ca8bb450ba6b2ba4110c8cfab58dcd7e28eaef5316111ef0e52b738bad5bacc8be65b23879cedf0bc41bb0112,
  0x021231b110161ba41327161c7131410361fd92c41c41d01c41d01c41d01c41d01c417fae4d0bca1e4b06b60fc1c9,
  0xb8e3dda8613111b41db6f9ba770dca431c61110201913101060401010121110201010101011102316131310191b6,
  0x52141b6cabe0dbedf9d2bfdb27de12ceaa1b4dced2bcde3bda1eba6cbeb8aaaaaaaaaaaaaaaaaaaaaaaaaaaaaaaa]

/-- Characters with a numeric value that are not letters. -/
def numeralRanges : Ranges := .ofPacked [
  0xe89ca015022eaa19cb49db89baf29bf8945be89bf89bf8925bf0b2bf5986be39be467b8be99bd69bf89bb0b9ec89,
  0xbb09bff9b9cce12df9969c29fa09ca8b0ce5969da29bc69cb4969cfc603569db8f024caa6f9bb8c1bed0c9dfa50c,
  0xaf70c58b42fe33cb89d071b4d29d9b4cbeab69da89fc05cd49d89db89c29bc69bae69bdfad09bcb3e4b2f6b71fe1,
  0xc6d63c9080cb44dc29cde27c56d98bb54c25ce012b52e5ba48f21d02bb54be47c47e16fd05e89ef4d0cd89e23bf2,
  0x6cb4c9ca89ba09cc497b9eb19fe29bf89bab49be29be2b1bba0b8bd39cad8c8de79bb09bcf4c0cfe7bf0bcbec59b,
  0xc69cb4916cbb8c2bffbf3b9be8c4dac9e9badc89bba29eae58ca89cbb1f81213bb6e41b4cea2b2bbec79aaaaaaaa]

end Text

namespace CodePoint

def isLetter (c : CodePoint) : Bool := Text.letterRanges.contains c.toNat

def isAlphanumeric (c : CodePoint) : Bool :=
  c.isLetter || Text.numeralRanges.contains c.toNat

set_option maxRecDepth 4000 in
theorem isLetter_surrogate (offset : Fin 2048) : (surrogate offset).isLetter = false :=
  Text.Ranges.contains_of_apart 0xD800 0xDFFF (by decide +kernel)
    (Nat.le_add_right _ _) (by simp only [toNat]; omega)

theorem isSurrogate_of_isAlphanumeric {c : CodePoint} (alphanumeric : c.isAlphanumeric = true) :
    c.isSurrogate = false := by
  cases c with
  | scalar => rfl
  | surrogate offset =>
      have numeral : Text.numeralRanges.contains (surrogate offset).toNat = false :=
        Text.Ranges.contains_of_apart 0xD800 0xDFFF (by decide +kernel)
          (Nat.le_add_right _ _) (by simp only [toNat]; omega)
      simp [isAlphanumeric, isLetter_surrogate, numeral] at alphanumeric

end CodePoint

end AgentFlow
