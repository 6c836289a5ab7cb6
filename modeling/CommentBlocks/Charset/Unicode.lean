import CommentBlocks.Bytes

namespace CommentBlocks.Charset

inductive ByteOrder
  | little
  | big
  deriving DecidableEq, Repr

def ByteOrder.unit : ByteOrder → UInt8 → UInt8 → Nat
  | little, a, b => b.toNat * 256 + a.toNat
  | big, a, b => a.toNat * 256 + b.toNat

def ofSurrogates (high low : Nat) : Char :=
  Char.ofNat ((high - 0xD800) * 0x400 + (low - 0xDC00) + 0x10000)

def decodeUtf16 (order : ByteOrder) : Bytes → Option (List Char)
  | [] => some []
  | [_] => none
  | a :: b :: rest =>
    let unit := order.unit a b
    if unit < 0xD800 ∨ 0xDFFF < unit then
      (decodeUtf16 order rest).map (Char.ofNat unit :: ·)
    else if unit ≤ 0xDBFF then
      match rest with
      | c :: d :: rest =>
        let low := order.unit c d
        if 0xDC00 ≤ low ∧ low ≤ 0xDFFF then
          (decodeUtf16 order rest).map (ofSurrogates unit low :: ·)
        else none
      | _ => none
    else none

end CommentBlocks.Charset
