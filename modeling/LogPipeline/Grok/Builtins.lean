import LogPipeline.Keyed

/-!
# Built-in patterns

The definitions that every pattern set begins with. A long one is cut between its parts.
-/

namespace LogPipeline.Grok

def builtins : Keyed String := [
  -- Words and texts
  ("USERNAME", r"[a-zA-Z0-9._-]+"),
  ("USER", r"%{USERNAME}"),
  ("EMAILLOCALPART", r"[a-zA-Z][a-zA-Z0-9_.+=:-]+"),
  ("EMAILADDRESS", r"%{EMAILLOCALPART}@%{HOSTNAME}"),
  ("WORD", r"\b\w+\b"),
  ("NOTSPACE", r"\S+"),
  ("SPACE", r"\s*"),
  ("DATA", r".*?"),
  ("GREEDYDATA", r".*"),
  ("QUOTEDSTRING", r#"(?:"(?:[^"\\]|\\.)*"|'(?:[^'\\]|\\.)*'|`(?:[^`\\]|\\.)*`)"#),
  ("QS", r"%{QUOTEDSTRING}"),
  ("UUID", r"[A-Fa-f0-9]{8}-(?:[A-Fa-f0-9]{4}-){3}[A-Fa-f0-9]{12}"),
  -- Numbers
  ("INT", r"(?:[+-]?(?:[0-9]+))"),
  ("BASE10NUM", r"(?:[+-]?(?:(?:[0-9]+(?:\.[0-9]+)?)|(?:\.[0-9]+)))"),
  ("NUMBER", r"(?:%{BASE10NUM})"),
  ("BASE16NUM", r"(?:0[xX])?[0-9a-fA-F]+"),
  ("POSINT", r"\b(?:[1-9][0-9]*)\b"),
  ("NONNEGINT", r"\b(?:[0-9]+)\b"),
  -- Networks
  ("CISCOMAC", r"(?:(?:[A-Fa-f0-9]{4}\.){2}[A-Fa-f0-9]{4})"),
  ("WINDOWSMAC", r"(?:(?:[A-Fa-f0-9]{2}-){5}[A-Fa-f0-9]{2})"),
  ("COMMONMAC", r"(?:(?:[A-Fa-f0-9]{2}:){5}[A-Fa-f0-9]{2})"),
  ("MAC", r"(?:%{CISCOMAC}|%{WINDOWSMAC}|%{COMMONMAC})"),
  ("IPV4", r"(?:(?:25[0-5]|2[0-4][0-9]|[01]?[0-9]{1,2})\.){3}(?:25[0-5]|2[0-4][0-9]|[01]?[0-9]{1,2})"),
  ("IPV6", String.join [
    r"(?:(?:[0-9A-Fa-f]{1,4}:){6}%{IPV4}",
    r"|::(?:[fF]{4}(?::0{1,4})?:)?%{IPV4}",
    r"|(?:[0-9A-Fa-f]{1,4}:){7}[0-9A-Fa-f]{1,4}",
    r"|(?:[0-9A-Fa-f]{1,4}:){1,6}:[0-9A-Fa-f]{1,4}",
    r"|(?:[0-9A-Fa-f]{1,4}:){1,5}(?::[0-9A-Fa-f]{1,4}){1,2}",
    r"|(?:[0-9A-Fa-f]{1,4}:){1,4}(?::[0-9A-Fa-f]{1,4}){1,3}",
    r"|(?:[0-9A-Fa-f]{1,4}:){1,3}(?::[0-9A-Fa-f]{1,4}){1,4}",
    r"|(?:[0-9A-Fa-f]{1,4}:){1,2}(?::[0-9A-Fa-f]{1,4}){1,5}",
    r"|[0-9A-Fa-f]{1,4}:(?::[0-9A-Fa-f]{1,4}){1,6}",
    r"|(?:[0-9A-Fa-f]{1,4}:){1,7}:",
    r"|:(?:(?::[0-9A-Fa-f]{1,4}){1,7}|:))",
    r"(?:%[0-9A-Za-z]+)?"]),
  ("IP", r"(?:%{IPV6}|%{IPV4})"),
  ("HOSTNAME",
    r"\b(?:[0-9A-Za-z][0-9A-Za-z-]{0,62})(?:\.(?:[0-9A-Za-z][0-9A-Za-z-]{0,62}))*(?:\.?|\b)"),
  ("HOST", r"%{HOSTNAME}"),
  ("IPORHOST", r"(?:%{IP}|%{HOSTNAME})"),
  ("HOSTPORT", r"%{IPORHOST}:%{POSINT}"),
  -- Paths and addresses
  ("UNIXPATH", r"(?:/[\w_%!$@:.,+~-]*)+"),
  ("WINPATH", r"(?:[A-Za-z]+:|\\)(?:\\[^\\?*]*)+"),
  ("PATH", r"(?:%{UNIXPATH}|%{WINPATH})"),
  ("URIPROTO", r"[A-Za-z](?:[A-Za-z0-9+\-.]+)+"),
  ("URIHOST", r"%{IPORHOST}(?::%{POSINT})?"),
  ("URIPATH", r"(?:/[A-Za-z0-9$.+!*'(){},~:;=@#%&_\-]*)+"),
  ("URIPARAM", r"\?[A-Za-z0-9$.+!*'|(){},~@#%&/=:;_?\-\[\]<>]*"),
  ("URIPATHPARAM", r"%{URIPATH}(?:%{URIPARAM})?"),
  ("URI", r"%{URIPROTO}://(?:%{USER}(?::[^@]*)?@)?(?:%{URIHOST})?(?:%{URIPATHPARAM})?"),
  -- Dates and times
  ("MONTH", String.join [
    r"\b(?:[Jj]an(?:uary|uar)?|[Ff]eb(?:ruary|ruar)?|[Mm](?:a|ä)?r(?:ch|z)?|[Aa]pr(?:il)?",
    r"|[Mm]a(?:y|i)?|[Jj]un(?:e|i)?|[Jj]ul(?:y|i)?|[Aa]ug(?:ust)?|[Ss]ep(?:tember)?",
    r"|[Oo][ck]t(?:ober)?|[Nn]ov(?:ember)?|[Dd]e[cz](?:ember)?)\b"]),
  ("MONTHNUM", r"(?:0?[1-9]|1[0-2])"),
  ("MONTHNUM2", r"(?:0[1-9]|1[0-2])"),
  ("MONTHDAY", r"(?:(?:0[1-9])|(?:[12][0-9])|(?:3[01])|[1-9])"),
  ("DAY",
    r"(?:Mon(?:day)?|Tue(?:sday)?|Wed(?:nesday)?|Thu(?:rsday)?|Fri(?:day)?|Sat(?:urday)?|Sun(?:day)?)"),
  ("YEAR", r"(?:\d\d){1,2}"),
  ("HOUR", r"(?:2[0123]|[01]?[0-9])"),
  ("MINUTE", r"(?:[0-5][0-9])"),
  ("SECOND", r"(?:(?:[0-5]?[0-9]|60)(?:[:.,][0-9]+)?)"),
  ("TIME", r"%{HOUR}:%{MINUTE}(?::%{SECOND})"),
  ("DATE_US", r"%{MONTHNUM}[/-]%{MONTHDAY}[/-]%{YEAR}"),
  ("DATE_EU", r"%{MONTHDAY}[./-]%{MONTHNUM}[./-]%{YEAR}"),
  ("ISO8601_TIMEZONE", r"(?:Z|[+-]%{HOUR}(?::?%{MINUTE}))"),
  ("ISO8601_SECOND", r"(?:%{SECOND}|60)"),
  ("TIMESTAMP_ISO8601",
    r"%{YEAR}-%{MONTHNUM}-%{MONTHDAY}[T ]%{HOUR}:?%{MINUTE}(?::?%{SECOND})?%{ISO8601_TIMEZONE}?"),
  ("DATE", r"%{DATE_US}|%{DATE_EU}"),
  ("DATESTAMP", r"%{DATE}[- ]%{TIME}"),
  ("TZ", r"(?:[APMCE][SD]T|UTC)"),
  ("DATESTAMP_RFC822", r"%{DAY} %{MONTH} %{MONTHDAY} %{YEAR} %{TIME} %{TZ}"),
  ("HTTPDATE", r"%{MONTHDAY}/%{MONTH}/%{YEAR}:%{TIME} %{INT}"),
  -- System logs
  ("SYSLOGTIMESTAMP", r"%{MONTH} +%{MONTHDAY} %{TIME}"),
  ("PROG", r"[\x21-\x5a\x5c\x5e-\x7e]+"),
  ("SYSLOGPROG", r"%{PROG:program}(?:\[%{POSINT:pid}\])?"),
  ("SYSLOGHOST", r"%{IPORHOST}"),
  ("SYSLOGFACILITY", r"<%{NONNEGINT:facility}.%{NONNEGINT:priority}>"),
  ("SYSLOGBASE",
    r"%{SYSLOGTIMESTAMP:timestamp} (?:%{SYSLOGFACILITY} )?%{SYSLOGHOST:logsource} %{SYSLOGPROG}:"),
  -- Log lines
  ("COMMONAPACHELOG", String.join [
    r"%{IPORHOST:clientip} %{USER:ident} %{USER:auth} \[%{HTTPDATE:timestamp}\] ",
    r#""(?:%{WORD:verb} %{NOTSPACE:request}(?: HTTP/%{NUMBER:httpversion})?|%{DATA:rawrequest})" "#,
    r"%{NUMBER:response} (?:%{NUMBER:bytes}|-)"]),
  ("COMBINEDAPACHELOG", r"%{COMMONAPACHELOG} %{QS:referrer} %{QS:agent}"),
  ("LOGLEVEL", String.join [
    r"(?:[Aa]lert|ALERT|[Tt]race|TRACE|[Dd]ebug|DEBUG|[Nn]otice|NOTICE|[Ii]nfo|INFO",
    r"|[Ww]arn?(?:ing)?|WARN?(?:ING)?|[Ee]rr?(?:or)?|ERR?(?:OR)?|[Cc]rit?(?:ical)?",
    r"|CRIT?(?:ICAL)?|[Ff]atal|FATAL|[Ss]evere|SEVERE|EMERG(?:ENCY)?|[Ee]merg(?:ency)?)"])]

end LogPipeline.Grok
