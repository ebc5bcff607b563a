import StaticServer.Text.LetterCase

/-!
# Media types

The media type of a file by the extension of its name. An extension starts at the last dot
that has something other than dots before it. Short forms for packed archives are written
out first, and an extension that only says how a file is packed is passed over once.
-/

namespace StaticServer.MediaType

/-- The type of a file whose name says nothing about it. -/
def unknown : Text :=
  "application/octet-stream"

/-- The type of a module of WebAssembly. -/
def wasm : Text :=
  "application/wasm"

/-- A row of the table: a type and its extensions in lower case. -/
def row (mediaType : String) (extensions : List String) : Text × List Text :=
  (mediaType.toList, extensions.map String.toList)

/-- Each type with its extensions. -/
def table : List (Text × List Text) :=
  [row "application/javascript" ["js", "mjs"],
   row "application/json" ["json"],
   row "application/manifest+json" ["webmanifest"],
   row "application/msword" ["doc", "dot", "wiz"],
   row "application/n-quads" ["nq"],
   row "application/n-triples" ["nt"],
   row "application/octet-stream" ["a", "bin", "dll", "exe", "o", "obj", "so"],
   row "application/oda" ["oda"],
   row "application/pdf" ["pdf"],
   row "application/pkcs7-mime" ["p7c"],
   row "application/postscript" ["ai", "eps", "ps"],
   row "application/trig" ["trig"],
   row "application/vnd.apple.mpegurl" ["m3u", "m3u8"],
   row "application/vnd.ms-excel" ["xlb", "xls"],
   row "application/vnd.ms-powerpoint" ["pot", "ppa", "pps", "ppt", "pwz"],
   row "application/wasm" ["wasm"],
   row "application/x-bcpio" ["bcpio"],
   row "application/x-cpio" ["cpio"],
   row "application/x-csh" ["csh"],
   row "application/x-dvi" ["dvi"],
   row "application/x-gtar" ["gtar"],
   row "application/x-hdf" ["hdf"],
   row "application/x-hdf5" ["h5"],
   row "application/x-latex" ["latex"],
   row "application/x-mif" ["mif"],
   row "application/x-netcdf" ["cdf", "nc"],
   row "application/x-pkcs12" ["p12", "pfx"],
   row "application/x-pn-realaudio" ["ram"],
   row "application/x-python-code" ["pyc", "pyo"],
   row "application/x-sh" ["sh"],
   row "application/x-shar" ["shar"],
   row "application/x-shockwave-flash" ["swf"],
   row "application/x-sv4cpio" ["sv4cpio"],
   row "application/x-sv4crc" ["sv4crc"],
   row "application/x-tar" ["tar"],
   row "application/x-tcl" ["tcl"],
   row "application/x-tex" ["tex"],
   row "application/x-texinfo" ["texi", "texinfo"],
   row "application/x-troff" ["roff", "t", "tr"],
   row "application/x-troff-man" ["man"],
   row "application/x-troff-me" ["me"],
   row "application/x-troff-ms" ["ms"],
   row "application/x-ustar" ["ustar"],
   row "application/x-wais-source" ["src"],
   row "application/xml" ["rdf", "wsdl", "xpdl", "xsl"],
   row "application/zip" ["zip"],
   row "audio/3gpp" ["3gp", "3gpp"],
   row "audio/3gpp2" ["3g2", "3gpp2"],
   row "audio/aac" ["aac", "adts", "ass", "loas"],
   row "audio/basic" ["au", "snd"],
   row "audio/mpeg" ["mp2", "mp3"],
   row "audio/opus" ["opus"],
   row "audio/x-aiff" ["aif", "aifc", "aiff"],
   row "audio/x-pn-realaudio" ["ra"],
   row "audio/x-wav" ["wav"],
   row "image/avif" ["avif"],
   row "image/bmp" ["bmp"],
   row "image/gif" ["gif"],
   row "image/heic" ["heic"],
   row "image/heif" ["heif"],
   row "image/ief" ["ief"],
   row "image/jpeg" ["jpe", "jpeg", "jpg"],
   row "image/png" ["png"],
   row "image/svg+xml" ["svg"],
   row "image/tiff" ["tif", "tiff"],
   row "image/vnd.microsoft.icon" ["ico"],
   row "image/x-cmu-raster" ["ras"],
   row "image/x-portable-anymap" ["pnm"],
   row "image/x-portable-bitmap" ["pbm"],
   row "image/x-portable-graymap" ["pgm"],
   row "image/x-portable-pixmap" ["ppm"],
   row "image/x-rgb" ["rgb"],
   row "image/x-xbitmap" ["xbm"],
   row "image/x-xpixmap" ["xpm"],
   row "image/x-xwindowdump" ["xwd"],
   row "message/rfc822" ["eml", "mht", "mhtml", "nws"],
   row "text/css" ["css"],
   row "text/csv" ["csv"],
   row "text/html" ["htm", "html"],
   row "text/n3" ["n3"],
   row "text/plain" ["bat", "c", "h", "ksh", "pl", "srt", "txt"],
   row "text/richtext" ["rtx"],
   row "text/tab-separated-values" ["tsv"],
   row "text/vtt" ["vtt"],
   row "text/x-python" ["py"],
   row "text/x-setext" ["etx"],
   row "text/x-sgml" ["sgm", "sgml"],
   row "text/x-vcard" ["vcf"],
   row "text/xml" ["xml"],
   row "video/mp4" ["mp4"],
   row "video/mpeg" ["m1v", "mpa", "mpe", "mpeg", "mpg"],
   row "video/quicktime" ["mov", "qt"],
   row "video/webm" ["webm"],
   row "video/x-msvideo" ["avi"],
   row "video/x-sgi-movie" ["movie"]]

/-- Extensions in lower case that stand for two. -/
def shortForms : List (Text × Text × Text) :=
  [("svgz", "svg", "gz"), ("tgz", "tar", "gz"), ("taz", "tar", "gz"), ("tz", "tar", "gz"),
   ("tbz2", "tar", "bz2"), ("txz", "tar", "xz")]

/-- Extensions that say how a file is packed. -/
def packings : List Text :=
  ["gz", "Z", "bz2", "xz", "br"]

/-- An extension in lower case. -/
def small (ext : Text) : Text :=
  ext.map Text.smallAscii

/-- A name without its extension, and the extension. -/
def splitExtension (name : Text) : Text × Option Text :=
  match Text.cutLast '.' name with
  | some (stem, ext) => if stem.all (· == '.') then (name, none) else (stem, some ext)
  | none => (name, none)

/-- The extension that says what a name's file holds. -/
def extension? (name : Text) : Option Text :=
  match splitExtension name with
  | (_, none) => none
  | (stem, some ext) =>
    match shortForms.lookup (small ext) with
    | some (inner, _) => some inner
    | none => if packings.contains ext then (splitExtension stem).2 else some ext

/-- The type of an extension. -/
def ofExtension? (ext : Text) : Option Text :=
  (table.find? fun (_, exts) ↦ exts.contains (small ext)).map Prod.fst

/-- The media type of a file by its name. -/
def ofName (name : Text) : Text :=
  ((extension? name).bind ofExtension?).getD unknown

/-- The type as the Content-Type header gives it: text is always in UTF-8. -/
def header (mediaType : Text) : Text :=
  if ("text/" : Text).isPrefixOf mediaType then mediaType ++ "; charset=utf-8" else mediaType

end StaticServer.MediaType
