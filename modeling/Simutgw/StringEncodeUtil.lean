import Mathlib.Data.List.TakeWhile

/-! Texts converted between the two encodings the gateway meets, as it is done outside
Windows: by `iconv`, into a buffer of the size of the source. -/

namespace Simutgw.StringEncodeUtil

inductive Charset
  | utf8
  | gb2312
  deriving DecidableEq

/-- The library's conversion: the charset it converts to, the one it converts from, the
bytes and the room there is. None stands for an error. -/
abbrev Iconv := Charset → Charset → List UInt8 → Nat → Option (List UInt8)

/-- The charsets stand the other way round in the library's call. -/
def codeConvert (iconv : Iconv) (fromCharset toCharset : Charset) (inbuf : List UInt8) (outlen : Nat) :
    Option (List UInt8) :=
  iconv toCharset fromCharset inbuf outlen

/-- A string made of a buffer ends before the first null byte. -/
def ofBuffer (buffer : List UInt8) : List UInt8 := buffer.takeWhile (· ≠ 0)

/-- What both functions do around the conversion. The buffer is all null bytes before,
and has one more of them than the library may fill. -/
def convert (iconv : Iconv) (fromCharset toCharset : Charset) (src : List UInt8) : List UInt8 :=
  if src.length = 0 then []
  else
    let dest := List.replicate (src.length + 1) 0
    match codeConvert iconv fromCharset toCharset src src.length with
    | none => []
    | some written => ofBuffer (written ++ dest.drop written.length)

def utfToGbk (iconv : Iconv) (src : List UInt8) : List UInt8 := convert iconv .utf8 .gb2312 src

def gbkToUtf (iconv : Iconv) (src : List UInt8) : List UInt8 := convert iconv .gb2312 .utf8 src

end Simutgw.StringEncodeUtil
