import GrantFs.Text

/-! # Media types

The media type of a file follows from the extension of its name: what stands behind the last dot,
unless that dot is the first character. Upper and lower case do not differ.
-/
namespace GrantFs.MediaType

/-- The extensions that are known; every other one is as good as none. -/
def byExtension : List (String × String) := [
  ("txt", "text/plain"), ("py", "text/plain"), ("c", "text/plain"), ("h", "text/plain"),
  ("cpp", "text/plain"), ("ini", "text/plain"), ("log", "text/plain"),
  ("md", "text/markdown"), ("markdown", "text/markdown"),
  ("html", "text/html"), ("htm", "text/html"), ("css", "text/css"),
  ("js", "text/javascript"), ("jsx", "text/javascript"), ("mjs", "application/javascript"),
  ("ts", "video/vnd.dlna.mpeg-tts"), ("json", "application/json"), ("xml", "text/xml"),
  ("yaml", "text/x-yaml"), ("yml", "text/x-yaml"), ("toml", "text/x-toml"),
  ("csv", "text/csv"), ("tsv", "text/tab-separated-values"), ("rs", "text/x-rust"),
  ("sh", "application/x-sh"), ("php", "application/x-httpd-php"), ("pl", "application/x-perl"),
  ("lua", "text/x-lua"), ("sql", "application/x-sql"),
  ("png", "image/png"), ("jpg", "image/jpeg"), ("jpeg", "image/jpeg"), ("gif", "image/gif"),
  ("webp", "image/webp"), ("svg", "image/svg+xml"), ("bmp", "image/bmp"),
  ("ico", "image/x-icon"), ("tiff", "image/tiff"), ("avif", "image/avif"),
  ("heic", "image/heic"), ("tif", "image/tiff"), ("jpe", "image/jpeg"), ("svgz", "image/svg+xml"),
  ("mp3", "audio/mpeg"), ("wav", "audio/wav"), ("ogg", "audio/ogg"), ("flac", "audio/flac"),
  ("m4a", "audio/m4a"), ("mp4", "video/mp4"), ("webm", "video/webm"),
  ("mov", "video/quicktime"), ("avi", "video/x-msvideo"), ("mkv", "video/x-matroska"),
  ("mpeg", "video/mpeg"), ("mpg", "video/mpeg"), ("mpe", "video/mpeg"), ("flv", "video/x-flv"),
  ("m4v", "video/x-m4v"), ("wmv", "video/x-ms-wmv"), ("ogv", "video/ogg"), ("3gp", "video/3gpp"),
  ("wma", "audio/x-ms-wma"), ("oga", "audio/ogg"), ("aac", "audio/aac"),
  ("xhtml", "application/xhtml+xml"), ("atom", "application/atom+xml"),
  ("rss", "application/rss+xml"),
  ("pdf", "application/pdf"), ("zip", "application/zip"), ("gz", "application/gzip"),
  ("tar", "application/x-tar"), ("bz2", "application/x-bzip2"),
  ("7z", "application/x-7z-compressed"), ("rar", "application/x-rar-compressed"),
  ("xz", "application/x-xz"), ("doc", "application/msword"),
  ("docx", "application/vnd.openxmlformats-officedocument.wordprocessingml.document"),
  ("xls", "application/vnd.ms-excel"),
  ("xlsx", "application/vnd.openxmlformats-officedocument.spreadsheetml.sheet"),
  ("ppt", "application/vnd.ms-powerpoint"),
  ("pptx", "application/vnd.openxmlformats-officedocument.presentationml.presentation"),
  ("odt", "application/vnd.oasis.opendocument.text"), ("epub", "application/epub+zip"),
  ("rtf", "application/rtf"), ("ttf", "font/ttf"), ("otf", "application/font-sfnt"),
  ("woff", "application/font-woff"), ("woff2", "font/woff2"), ("wasm", "application/wasm"),
  ("dll", "application/x-msdownload"), ("apk", "application/vnd.android.package-archive"),
  ("jar", "application/java-archive"), ("ics", "text/calendar"), ("vcf", "text/x-vcard"),
  ("eml", "message/rfc822"), ("ps", "application/postscript"), ("tex", "application/x-tex"),
  ("swf", "application/x-shockwave-flash"), ("xyz", "chemical/x-xyz"),
  ("json5", "application/json5")]

def unknown : Text := "application/octet-stream"

def extension? (name : Text) : Option Text :=
  let extension := (name.reverse.takeWhile (· ≠ '.')).reverse
  if extension.length + 1 < name.length then some extension else none

def ofName (name : Text) : Text :=
  match extension? name with
  | none => unknown
  | some extension =>
    match byExtension.lookup (String.ofList (extension.map Char.toLower)) with
    | some mediaType => mediaType
    | none => unknown

end GrantFs.MediaType
