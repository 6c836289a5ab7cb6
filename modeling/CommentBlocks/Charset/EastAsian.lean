import CommentBlocks.Bytes
import CommentBlocks.Charset.Index.Big5
import CommentBlocks.Charset.Index.EucKr
import CommentBlocks.Charset.Index.Gb18030
import CommentBlocks.Charset.Index.Gb18030Ranges
import CommentBlocks.Charset.Index.Jis0208
import CommentBlocks.Charset.Index.Jis0212

namespace CommentBlocks.Charset

def lookup (rows : Array (Array Char)) (row column : Nat) : Option Char := do
  let c ← (← rows[row]?)[column]?
  if c = '\uFFFD' then none else some c

def lookupAt (rows : Array (Array Char)) (width place : Nat) : Option Char :=
  lookup rows (place / width) (place % width)

def within (low high : UInt8) (b : UInt8) : Bool := low ≤ b && b ≤ high

def thenRest (c : Option Char) (rest : Option (List Char)) : Option (List Char) := do
  return (← c) :: (← rest)

def ascii (b : UInt8) : Char := Char.ofNat b.toNat

def katakana (b : UInt8) : Char := Char.ofNat (0xFF61 + (b.toNat - 0xA1))

def column (trail : UInt8) : Nat := trail.toNat - (if trail < 0x7F then 0x40 else 0x41)

def decodeEucKr : Bytes → Option (List Char)
  | [] => some []
  | lead :: rest =>
    if lead < 0x80 then thenRest (ascii lead) (decodeEucKr rest)
    else if within 0x81 0xFE lead then
      match rest with
      | [] => none
      | trail :: rest =>
        if within 0x41 0xFE trail then
          thenRest (lookup Index.eucKr (lead.toNat - 0x81) (trail.toNat - 0x41)) (decodeEucKr rest)
        else none
    else none

def big5Pair? (row column : Nat) : Option (List Char) :=
  match row * 157 + column with
  | 1133 => some ['\u00CA', '\u0304']
  | 1135 => some ['\u00CA', '\u030C']
  | 1164 => some ['\u00EA', '\u0304']
  | 1166 => some ['\u00EA', '\u030C']
  | _ => none

def decodeBig5 : Bytes → Option (List Char)
  | [] => some []
  | lead :: rest =>
    if lead < 0x80 then thenRest (ascii lead) (decodeBig5 rest)
    else if within 0x81 0xFE lead then
      match rest with
      | [] => none
      | trail :: rest =>
        if within 0x40 0x7E trail || within 0xA1 0xFE trail then
          let row := lead.toNat - 0x81
          let column := trail.toNat - (if trail < 0x7F then 0x40 else 0x62)
          match big5Pair? row column with
          | some cs => (decodeBig5 rest).map (cs ++ ·)
          | none => thenRest (lookup Index.big5 row column) (decodeBig5 rest)
        else none
    else none

def decodeShiftJis : Bytes → Option (List Char)
  | [] => some []
  | lead :: rest =>
    if lead ≤ 0x80 then thenRest (ascii lead) (decodeShiftJis rest)
    else if within 0xA1 0xDF lead then thenRest (katakana lead) (decodeShiftJis rest)
    else if within 0x81 0x9F lead || within 0xE0 0xFC lead then
      match rest with
      | [] => none
      | trail :: rest =>
        if within 0x40 0x7E trail || within 0x80 0xFC trail then
          let row := lead.toNat - (if lead < 0xA0 then 0x81 else 0xC1)
          let place := row * 188 + column trail
          let c :=
            if 8836 ≤ place ∧ place ≤ 10715 then some (Char.ofNat (0xE000 - 8836 + place))
            else lookupAt Index.jis0208 94 place
          thenRest c (decodeShiftJis rest)
        else none
    else none

def decodeEucJp : Bytes → Option (List Char)
  | [] => some []
  | lead :: rest =>
    if lead < 0x80 then thenRest (ascii lead) (decodeEucJp rest)
    else if lead = 0x8E then
      match rest with
      | [] => none
      | trail :: rest =>
        if within 0xA1 0xDF trail then thenRest (katakana trail) (decodeEucJp rest) else none
    else if lead = 0x8F then
      match rest with
      | second :: third :: rest =>
        if within 0xA1 0xFE second && within 0xA1 0xFE third then
          thenRest (lookup Index.jis0212 (second.toNat - 0xA1) (third.toNat - 0xA1))
            (decodeEucJp rest)
        else none
      | _ => none
    else if within 0xA1 0xFE lead then
      match rest with
      | [] => none
      | trail :: rest =>
        if within 0xA1 0xFE trail then
          thenRest (lookup Index.jis0208 (lead.toNat - 0xA1) (trail.toNat - 0xA1))
            (decodeEucJp rest)
        else none
    else none

/-- The character of four bytes by its number. Numbers from 189000 on are the characters past
U+FFFF, and 7457 is the one that a character of two bytes has changed places with. -/
def fourByteChar (number : Nat) : Option Char :=
  if number = 7457 then some '\uE7C7'
  else if 189000 ≤ number then
    if number ≤ 1237575 then some (Char.ofNat (number - 189000 + 0x10000)) else none
  else if number ≤ 39419 then
    (Index.gb18030Ranges.filter (·.1 ≤ number)).getLast?.map fun (start, first) =>
      Char.ofNat (first + (number - start))
  else none

def decodeGb18030 : Bytes → Option (List Char)
  | [] => some []
  | lead :: rest =>
    if lead < 0x80 then thenRest (ascii lead) (decodeGb18030 rest)
    else if lead = 0x80 then thenRest (some '\u20AC') (decodeGb18030 rest)
    else if lead = 0xFF then none
    else
      match rest with
      | [] => none
      | second :: rest =>
        if within 0x40 0x7E second || within 0x80 0xFE second then
          thenRest (lookup Index.gb18030 (lead.toNat - 0x81) (column second)) (decodeGb18030 rest)
        else if within 0x30 0x39 second then
          match rest with
          | third :: fourth :: rest =>
            if within 0x81 0xFE third && within 0x30 0x39 fourth then
              let number := (lead.toNat - 0x81) * 12600 + (second.toNat - 0x30) * 1260 +
                (third.toNat - 0x81) * 10 + (fourth.toNat - 0x30)
              thenRest (fourByteChar number) (decodeGb18030 rest)
            else none
          | _ => none
        else none

inductive JisSet
  | ascii
  | roman
  | katakana
  | kanji
  deriving DecidableEq, Repr

def JisSet.ofEscape? (a b : UInt8) : Option JisSet :=
  if a = 0x28 then
    if b = 0x42 then some ascii
    else if b = 0x4A then some roman
    else if b = 0x49 then some katakana
    else none
  else if a = 0x24 ∧ (b = 0x40 ∨ b = 0x42) then some kanji
  else none

/-- Decodes from within `set`. A set has to be put to use before another is selected, which
`fresh` keeps in mind. -/
def decodeIso2022From (set : JisSet) (fresh : Bool) : Bytes → Option (List Char)
  | [] => some []
  | b :: rest =>
    if b = 0x1B then
      match rest with
      | x :: y :: rest =>
        match JisSet.ofEscape? x y with
        | some next => if fresh then none else decodeIso2022From next true rest
        | none => none
      | _ => none
    else
      match set with
      | .ascii =>
        if 0x80 ≤ b || b = 0x0E || b = 0x0F then none
        else thenRest (ascii b) (decodeIso2022From set false rest)
      | .roman =>
        if 0x80 ≤ b || b = 0x0E || b = 0x0F then none
        else
          let c := if b = 0x5C then '\u00A5' else if b = 0x7E then '\u203E' else ascii b
          thenRest c (decodeIso2022From set false rest)
      | .katakana =>
        if within 0x21 0x5F b then
          thenRest (katakana (b + 0x80)) (decodeIso2022From set false rest)
        else none
      | .kanji =>
        match rest with
        | [] => none
        | trail :: rest =>
          if within 0x21 0x7E b && within 0x21 0x7E trail then
            thenRest (lookup Index.jis0208 (b.toNat - 0x21) (trail.toNat - 0x21))
              (decodeIso2022From set false rest)
          else none

def decodeIso2022Jp (b : Bytes) : Option (List Char) := decodeIso2022From .ascii false b

end CommentBlocks.Charset
