import AgentFlow.Text.CodePoint

/-!
# Printable characters

A code point is printable when it is a letter, a mark, a number, a punctuation sign, a symbol or the
ASCII space.  All others are shown by an escape in quoted text.
-/

namespace AgentFlow

namespace Text

def printableRanges : Ranges := .ofPacked [
  0xd2bd4d4b11bff32546101b91bad61d72e9221f48c645b7c11db11e72f82be0b4f82e82b41c7201b05d09bb31ce01,
  0x7212c11610332821238041142c42215412c116111111201441223073107b6b0218121c116111429121220b532b17,
  0x61217212c11611142821227241142b7b0115321331101131323b14432132060b4c05b2121c21b528121371122023,
  0x297c1121c219142812137161132911b3b2121f012154b52c5121b73c3181026304510176922b2f74c8d7110141c3,
  0x101c22410152923d2bb11d54d81d51b41b2d7db710502bab6132610132e0132d2132610132b41f6132ba62d13c56,
  0xbc5252bed91c73bc87c19c39b9b2b21211b2bd329696b31b06bc87e25ba9b0d01b14b1403e124b1e34c56b03ba12,
  0xba41c82b0696b32d0e9bb63e61bf58f93b43f97e22b08e25bcf3252d725271010101d02f21b41b3251b82218b7c3,
  0x8e6b712c61b23d2b5d2b5cb94bfa2c5b0c1fab12d11fe85e410502f571b4c396161616161616161ca5d4c51bc8b2,
  0xdd3c6b15ba21bc52be25e21bd31bc3b2e61cbdcb23f49fe7c0da38dc2511014c4f8396f58ba98b16bf5b1c93bb71,
  0xb04d21f49b3292be2c4c7b05252596161f94ca5296fbab1b2c24e8dfcf2baa52be5d86b245c5141011111ca4b6bb,
  0xc42f370d2e16f01b813441cb44da9352525223616b312b11c51b8111b42b3d4ca2524e43bc71b230e7e5cb0c83e8,
  0xb5c74d59c95e25c91d64b3e2cd7296d54d54d98f1b1b11b416111b01b41611ba7fb09c1b07c451e118ba95201e31,
  0x1302c21bb188e8b8115d23c650ba4f54b92e91157121c82249787ba3d2d84b19f33c82c65c573b26bc0bb2f5f0b3,
  0xf07e589ef4d01e11221bb8d98e1c2c5d8c7c0c29bb74d59ba114b3c4796f21b78d89bd51b9b1b71e3ba5610131b4,
  0x1b06f8596317212c11611141921222060562634cb9bd114d0bb189ce6f32d7d4ba8b196b2b9f769f4c62b44c2da5,
  0xf9be0bc2b272027111c9112b199bb072e52b0c7bb18bc2b3bb2ec381e41b3b0c83d12c11b3bb36111e3301118896,
  0x5111d6111579fb0c4da30b5e9b3cdc2be2bf014b1db5bbbf6bd8b3cff0bfbc9bde2dfff3bdc87d0194bc0196c925,
  0xb0ba9b09161c05b8bfc8bd0be1bb44f67b6ba44b11b4cfab58dcd7e28eaef5316111ef0e52b738bad5bacc8be65b,
  0x2387923cbac4e52c29bf5ba0ea5b0d82bb38bf1c1ba9cd4b9b2bc69c4cb5bc41bb0112021231b110161ba4132716,
  0x1c7131410361fd92ef12bfe1b541b4dac4d0de561b6261114dd3e43b32941fc0d0b7f750dce8613111b41db62b5e,
  0x1bb54941cba5ba7bb6ba0db431c61110201913101060401010121110201010101011102316131310191b652141b6,
  0xf21ed0e34bd9b2b42b41b41d6b0cf3f6c8b3e34871b45cd4cec35b53b23bf5b2bc87b140b5b14f5896d98c921bb8,
  0xfd9b2b32434369c83b055b0967869cc61f4d79cfb0dbedf9d2bfdb27de12ceaa1b4dced2bcde3bda1eba6cbeb8bd,
  0xbbdcf3df9aaaaaaaaaaaaaaaaaaaaaaaaaaaaaaaaaaaaaaaaaaaaaaaaaaaaaaaaaaaaaaaaaaaaaaaaaaaaaaaaaaa]

end Text

def CodePoint.isPrintable (c : CodePoint) : Bool :=
  Text.printableRanges.contains c.toNat

end AgentFlow
