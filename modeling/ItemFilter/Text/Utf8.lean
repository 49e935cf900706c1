/-
This file decodes UTF-8. A fault covers the bytes from the start of the broken character to the
last byte that could still belong to it.
-/

import ItemFilter.Text.Hexadecimal

namespace ItemFilter.Text

inductive Utf8Cause where
  | start
  | continuation
  | truncated
deriving DecidableEq

/-- The bytes from `first` up to but not including `stop` are no character. -/
structure Utf8Fault where
  cause : Utf8Cause
  first : Nat
  stop : Nat
  byte : UInt8
deriving DecidableEq

def Utf8Cause.message : Utf8Cause → String
  | .start => "invalid start byte"
  | .continuation => "invalid continuation byte"
  | .truncated => "unexpected end of data"

def Utf8Fault.message (fault : Utf8Fault) : String :=
  let place :=
    if fault.stop = fault.first + 1 then
      "byte 0x" ++ (hexadecimal 2 fault.byte.toNat).shown ++ " in position " ++ toString fault.first
    else
      "bytes in position " ++ toString fault.first ++ "-" ++ toString (fault.stop - 1)
  "'utf-8' codec can't decode " ++ place ++ ": " ++ fault.cause.message

def isContinuation (byte : UInt8) : Bool :=
  0x80 ≤ byte && byte < 0xC0

/-- The second byte excludes overlong forms, surrogates and code points out of range. -/
def isSecond (lead byte : UInt8) : Bool :=
  isContinuation byte &&
    (if lead == 0xE0 then 0xA0 ≤ byte
    else if lead == 0xED then byte < 0xA0
    else if lead == 0xF0 then 0x90 ≤ byte
    else if lead == 0xF4 then byte < 0x90
    else true)

def tailBits (byte : UInt8) : Nat :=
  byte.toNat - 0x80

/-- The characters from `position` on, after the reversed `read` ones. -/
def utf8From (position : Nat) (read : Text) : List UInt8 → Except Utf8Fault Text
  | [] => .ok read.reverse
  | lead :: rest =>
      let fault (cause : Utf8Cause) (width : Nat) : Except Utf8Fault Text :=
        .error ⟨cause, position, position + width, lead⟩
      if lead < 0x80 then utf8From (position + 1) (Char.ofNat lead.toNat :: read) rest
      else if lead < 0xC2 || 0xF4 < lead then fault .start 1
      else match rest with
        | [] => fault .truncated 1
        | second :: rest =>
            if !isSecond lead second then fault .continuation 1
            else if lead < 0xE0 then
              utf8From (position + 2)
                (Char.ofNat ((lead.toNat - 0xC0) * 64 + tailBits second) :: read) rest
            else match rest with
              | [] => fault .truncated 2
              | third :: rest =>
                  if !isContinuation third then fault .continuation 2
                  else if lead < 0xF0 then
                    utf8From (position + 3)
                      (Char.ofNat (((lead.toNat - 0xE0) * 64 + tailBits second) * 64 +
                        tailBits third) :: read) rest
                  else match rest with
                    | [] => fault .truncated 3
                    | fourth :: rest =>
                        if !isContinuation fourth then fault .continuation 3
                        else
                          utf8From (position + 4)
                            (Char.ofNat ((((lead.toNat - 0xF0) * 64 + tailBits second) * 64 +
                              tailBits third) * 64 + tailBits fourth) :: read) rest

def ofUtf8 (bytes : List UInt8) : Except Utf8Fault Text :=
  utf8From 0 [] bytes

end ItemFilter.Text
