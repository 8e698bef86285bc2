/-!
# The time zone database

Release 2025b of the tz database up to the year 2100: the offset of every zone from universal time
as it changes, in packed form, and the names that stand for another zone.
-/

namespace LogPipeline.Time

/-- Each zone with its packed changes: the number of distinct offsets, the offsets in seconds, then
every change as a distance in time and the position of the offset that holds from then on. The first
offset holds before the first change. Offsets and the first time are doubled, less one when negative;
a later distance is doubled when counted in quarters of an hour, and doubled plus one in seconds. -/
def zoneData : List (String × String) := [
  ("Africa/Abidjan",
    "Ch8PAjtjl27PB"),
  ("Africa/Algiers",
    String.join ["FhtYhjCAnhAuiAk0m5ytXBhly66yXCp880qDD0uAChg0ADhk+AC82ADhnyAC7sADho8AC44ADhvoAC60ADyyAChn",
    "ggADs4ICysQDo5hYEhjnYDhhgIE-pQDiosACz92IDvtvYCxmkAD88ACsggIDh8sAEhikIDiq5QChikIDhjuIChij",
    "YD"]),
  ("Africa/Bissau",
    "DnpXngfAjtjlx2fBkm6yAC"),
  ("Africa/Cairo",
    String.join ["Du1KuiA1jAkioq5lJBiq65zzLCuzYBhk4IC87YBhk+IChnlYB9oIChojYB8wIChojYB-kIChlpYB41gIC6-YBhn4",
    "IC81YBhn4QC8wIBhojYC8wIBhn9YC8wIBhn9YC8wIBhn9YC8wIBhojYC8wIBhn9YC8wIBhn9YC82IBhn3YC82IBh",
    "n9YC82IBhn3YC82IBhn3YC82IBhn3YC82IBhn9YC82IBhn3YC82IBhn3YC82IBhn3YC82IBhn9YC82IBhn3YC82I",
    "Bhn3YC82IBhn3YC82IBhn9YC82IBhn3YC82IBh31YCs4IBh1nYCvmIBhn9YC82IBhn3YC82IBhn3YC82IBhn3YC8",
    "2IBhn9YC82IBho1YC74IBhn3YC82IBhn3YC82IBhn9YC82IBhn3YC82IBhn3YC82IBhnlQC87YBhnsIC87YBhnsI",
    "C87YBhnsIC87YBho2IC87YBhnsIC87YBhnsIC87YBhnsIC87YBhnsIC87YBho2IC87YBhnsIC87YBhnsIC7xYBho",
    "2IC49YBhrqIC3zYBhs0IC2pYBhvoICzpYBl0ICj9YBn4iICn7YBmyICqvYBysgIChijYBhikIChjtYBhg6IChjtY",
    "Bhg6IChjtYBhikIChijYBhikIChijYBhikIChijYBhikIChjtYBhg6IChjtYBhikIChijYBhikIChijYBhikIChi",
    "jYBhikIChijYBhikIChjtYBhg6IChjtYBhikIChijYBhikIChijYBhikIChijYBhikIChjtYBhg6IChjtYBhg6IC",
    "hjtYBhikIChijYBhikIChijYBhikIChijYBhikIChjtYBhg6IChjtYBhikIChijYBhikIChijYBhikIChijYBhik",
    "IChjtYBhg6IChjtYBhg6IChjtYBhikIChijYBhikIChijYBhikIChijYBhikIChjtYBhg6IChjtYBhikIChijYBh",
    "ikIChijYBhikIChijYBhikIChijYBhikIChjtYBhg6IChjtYBhikIChijYBhikIChijYBhikIChijYBhikIChjtY",
    "Bhg6IChjtYBhg6IChjtYBhikIChijYBhikIChijYBhikIChijYBhikIChjtYBhg6IChjtYBhikIChijYBhikIChi",
    "jYBhikIChijYBhikIChjtYBhg6IChjtYBhg6IChjtYBhikIChijYBhikIChijYBhikIChijYBhikIChjtYBhg6IC",
    "hjtYBhikIChijYBhikIChijYBhikIChijYBhikIChijYBhikIChjtYBhg6IChjtYBhikIChijYBhikIChijYBhik",
    "IChijYBhikIChjtYBhg6IChjtYBhg6IChjtYB"]),
  ("Africa/Casablanca",
    String.join ["DjxXAnhAjp14jmHBhw10tuJCs3YBysICsotYBp4sIC6nYBhjwxIC2sYBus8ICs9YBjygICxnYBhzmIC8jYBhukIC",
    "r-YBsgyICj6-YBhv-iICxnYBhzmICvlYBhv0ICyrYBhs0IC2pYBhzmYCvsABl6ACn2ABhnsACtkABmsACu0AB88A",
    "Cw8ABmyACv+AB88ACuuABmyACysAB88ACtkABmyAC1gAB7yACqwABn8AC2qAB7yACpmABmyACh8sABmyACh7iABn",
    "8ACh7iABmyACh7iABn8ACh7iABmyACh8sABmyACh7iABn8ACh7iABmyACh8sABmyACh7iABn8ACh7iABmyACh7iA",
    "Bn8ACh7iABmyACh8sABmyACh7iABn8ACh7iABmyACh7iABn8ACh7iABn8ACh7iABmyACh7iABn8ACh7iABmyACh8",
    "sABmyACh7iABn8ACh7iABmyACh7iABn8ACh7iABn8ACh7iABmyACh7iABn8ACh7iABmyACh8sABmyACh7iABn8AC",
    "h7iABmyACh7iABn8ACh7iABn8ACh7iABmyACh7iABn8ACh7iABmyACh8sABmyACh7iABn8ACh7iABmyACh7iABn8",
    "ACh7iABn8ACh7iABmyACh7iABn8ACh7iABmyACh8sABmyACh7iABn8ACh7iABmyACh7iABn8ACh7iABn8ACh7iAB",
    "myACh7iABn8ACh7iABmyACh8sABmyACh7iABn8ACh7iABmyACh7iABn8ACh7iABn8ACh7iABmyACh7iABn8ACh7i",
    "ABmyACh8sABmyACh7iABn8ACh7iABmyACh7iABn8ACh7iABmyACh8sABmyACh7iABn8ACh7iABmyACh8sABmyACh",
    "7iABn8AC"]),
  ("Africa/Ceuta",
    String.join ["EivXAnhAuiAkh5llvfBhlj5YC87YBr6sIChgiIBjo-YC-wIBhjtYChg6IBhk4AChg6ABiy3nAC2sYBus8ICs9YBj",
    "ygICxnYBhzmIC8jYBhukICr-YBsgyICkrwIDhikAChikADhikAChikADhikAChikADhikAChikADhjuAChikADhi",
    "kAChikADhikAChikADhikAChikADhikAChikADhikAChjuADhnsAC88ADhnsAC88ADhnsAC88ADho2AC7yADho2A",
    "C7yADho2AC88ADhnsAC88ADhnsAC88ADho2AC7yADho2AC7yADho2AC7yADho2AC88ADhnsAC88ADhnsAC88ADho",
    "2AC7yADho2AC7yADho2AC88ADhnsAC88ADhnsAC88ADhnsAC88ADho2AC7yADho2AC7yADho2AC88ADhnsAC88AD",
    "hnsAC88ADho2AC7yADho2AC7yADho2AC88ADhnsAC88ADhnsAC88ADhnsAC88ADho2AC7yADho2AC7yADho2AC88",
    "ADhnsAC88ADhnsAC88ADho2AC7yADho2AC7yADho2AC7yADho2AC88ADhnsAC88ADhnsAC88ADho2AC7yADho2AC",
    "7yADho2AC88ADhnsAC88ADhnsAC88ADhnsAC88ADho2AC7yADho2AC7yADho2AC88ADhnsAC88ADhnsAC88ADho2",
    "AC7yADho2AC7yADho2AC88ADhnsAC88ADhnsAC88ADhnsAC88ADho2AC7yADho2AC7yADho2AC88ADhnsAC88ADh",
    "nsAC88ADho2AC7yADho2AC7yADho2AC7yADho2AC88ADhnsAC88ADhnsAC88ADho2AC7yADho2AC7yADho2AC88A",
    "DhnsAC88ADhnsAC88ADhnsAC88ADho2AC7yADho2AC7yADho2AC88ADhnsAC88ADhnsAC88ADho2AC7yADho2AC7",
    "yADho2AC88ADhnsAC88ADhnsAC88ADhnsAC88ADho2AC7yADho2AC7yADho2AC88ADhnsAC88ADhnsAC88ADho2A",
    "C7yADho2AC7yADho2AC7yADho2AC88ADhnsAC88ADhnsAC88ADho2AC7yADho2AC7yADho2AC88ADhnsAC88ADhn",
    "sAC88ADhnsAC"]),
  ("Africa/El_Aaiun",
    String.join ["EmlfngfAnhAij28nxfBivxi-7BCjlYDxnYChzmID8jYChukIDr-YCh-60IDxnYChzmIDvlYChv0IDyrYChs0ID2p",
    "YChzmYDvsACl6ADn2AChnsADtkACmsADu0AC88ADw8ACmyADv+AC88ADuuACmyADysAC88ADtkACmyAD1gAC7yAD",
    "qwACn8AD2qAC7yADpmACmyADh8sACmyADh7iACn8ADh7iACmyADh7iACn8ADh7iACmyADh8sACmyADh7iACn8ADh",
    "7iACmyADh8sACmyADh7iACn8ADh7iACmyADh7iACn8ADh7iACmyADh8sACmyADh7iACn8ADh7iACmyADh7iACn8A",
    "Dh7iACn8ADh7iACmyADh7iACn8ADh7iACmyADh8sACmyADh7iACn8ADh7iACmyADh7iACn8ADh7iACn8ADh7iACm",
    "yADh7iACn8ADh7iACmyADh8sACmyADh7iACn8ADh7iACmyADh7iACn8ADh7iACn8ADh7iACmyADh7iACn8ADh7iA",
    "CmyADh8sACmyADh7iACn8ADh7iACmyADh7iACn8ADh7iACn8ADh7iACmyADh7iACn8ADh7iACmyADh8sACmyADh7",
    "iACn8ADh7iACmyADh7iACn8ADh7iACn8ADh7iACmyADh7iACn8ADh7iACmyADh8sACmyADh7iACn8ADh7iACmyAD",
    "h7iACn8ADh7iACn8ADh7iACmyADh7iACn8ADh7iACmyADh8sACmyADh7iACn8ADh7iACmyADh7iACn8ADh7iACmy",
    "ADh8sACmyADh7iACn8ADh7iACmyADh8sACmyADh7iACn8AD"]),
  ("Africa/Johannesburg",
    "EtkAqxQuiA1jAkywy-rfB05uniRCi01gMDhijYChikIDhijYC"),
  ("Africa/Juba",
    String.join ["Du6IuiA1jAiprwyyHBip-o+wJC-pYBhk+IC-vYBhlkIC-vYBhk4IC-1YBhkyIC-7YBhksIChghYBhkmIChgtYBhj",
    "6IChgzYBhk+IC-vYBhk4IC-1YBhkyIChghYBhkmIChgnYBhkgIChgtYBhj6IChgzYBhk+IC-1YBhkyIC-7YB+whI",
    "ChthsYB"]),
  ("Africa/Khartoum",
    String.join ["DvoAuiA1jAiprwy-fBip-o++BC-pYBhk+IC-vYBhlkIC-vYBhk4IC-1YBhkyIC-7YBhksIChghYBhkmIChgtYBhj",
    "6IChgzYBhk+IC-vYBhk4IC-1YBhkyIChghYBhkmIChgnYBhkgIChgtYBhj6IChgzYBhk+IC-1YBhkyIC-7YB+whI",
    "Chmi0YB"]),
  ("Africa/Lagos",
    "EhyeAjwQnhAj5qynydBl0z3yfAqrnx9DCq0+16PD"),
  ("Africa/Maputo",
    "CvoUuiAjy301oTB"),
  ("Africa/Monrovia",
    "DlhXlmbAi-0ip2HBjjtr29FC"),
  ("Africa/Nairobi",
    "ExoIxyQ1jAzqYj0gg3gHBhl98klZCjn1cBu+2EDr+jeC"),
  ("Africa/Ndjamena",
    "DnhYnhAuiAjtjl-5XBj-v-4wZC7rYB"),
  ("Africa/Sao_Tome",
    "EjlAkpZAnhAlh4shsfBh01mo1BCni7uIDikuAC"),
  ("Africa/Tripoli",
    String.join ["DmlYnhAuiAi+h0-tXBh75j3+ZCu5IBj5qYCv3IBj3uICxtYBmtwIChxnlYBw8IChipYBhikIChipYBhiqIChipYB",
    "hjiIChhrYBhi2IChijYBhh4IChipYBhiqIChipYBhikIChipYBhoqICt29YBhi8IChhsyIB6iAC"]),
  ("Africa/Tunis",
    String.join ["Ek4YhjCnhAuiAlm3n2gXBh4jo+lXCh07o8pDDho2ACyyADjuoAC88IDhs0QC7yADjxYChwID+rYChikIDhjnIChh",
    "gYD-pICij1uID7yAChpiAD82AC02iAD14AChikADhikAChpiAD8wAC-m6AD8wIChhmIDho2AC7yADho2AC88ADhn",
    "sAC"]),
  ("Africa/Windhoek",
    String.join ["FogQqxQuiA1jAnhAkywy6oPB05uh-BCi01gMDhijYCjtk3YE-qYChnrYE88ICho1YE7yICho1YE88IChnrYE88IC",
    "hnrYE88IChnrYE88IChnrYE88ICho1YE7yICho1YE88IChnrYE88IChnrYE88IChnrYE88IChnrYE88ICho1YE88",
    "IChnrYE88IChnrYE88IChnrYE88IChnrYE88ICho1YE7yICho1YE88IChnrYE88IChnrYE88IChnrYE88IC"]),
  ("America/Adak",
    String.join ["Fi1+Eiy5bitqfimpfh-ofmgn0hidBh94xuobCiugn1nFDn5lYChyusIDhijYChikIDhijYChikIDhjtYChikIDhi",
    "jYChikIDhijYCtkIDh3jYC2qIDht9YChikIDhjtYChg6IDhjtYChikIDhijYChikIDhijYChikIDhijYChikIDhi",
    "jYChikIDhjtYChg6IDilxYEhijYDhikIEhijYDhikIEhijYD+mIEhmhYD+mIEhnrYD88IEhnrYD88IEhnrYD+mIE",
    "hmhYD+mIEhmhYD+mIEhnrYD88IEhnrYD88IEhnrYD+mIEhmhYD+mIEhmhYD+mIEhmhYD+mIEhnrYD88IEhnrYD88",
    "IEhnrYD+mIEhmhYD+mIEhmhYD+mIEhnrYD88IEhnrYD88IEhnrYD4+IEhszYD30IEhszYD30IEhszYD4+IEhszYD",
    "30IEhszYD30IEhszYD30IEhszYD30IEhszYD30IEhszYD4+IEhszYD30IEhszYD30IEhszYD30IEhszYD30IEhsz",
    "YD4+IEhszYD30IEhszYD30IEhszYD30IEhszYD30IEhszYD30IEhszYD4+IEhszYD30IEhszYD30IEhszYD30IEh",
    "szYD30IEhszYD4+IEhszYD30IEhszYD30IEhszYD30IEhszYD30IEhszYD30IEhszYD4+IEhszYD30IEhszYD30I",
    "EhszYD30IEhszYD30IEhszYD30IEhszYD4+IEhszYD30IEhszYD30IEhszYD30IEhszYD30IEhszYD4+IEhszYD3",
    "0IEhszYD30IEhszYD30IEhszYD30IEhszYD30IEhszYD4+IEhszYD30IEhszYD30IEhszYD30IEhszYD30IEhszY",
    "D4+IEhszYD30IEhszYD30IEhszYD30IEhszYD30IEhszYD30IEhszYD4+IEhszYD30IEhszYD30IEhszYD30IEhs",
    "zYD30IEhszYD30IEhszYD4+IEhszYD30IEhszYD30IEhszYD30IEhszYD30IEhszYD4+IEhszYD30IEhszYD30IE",
    "hszYD30IEhszYD30IEhszYD30IEhszYD4+IEhszYD30IEhszYD30IEhszYD30IEhszYD30IEhszYD4+IEhszYD30",
    "IEhszYD30IEhszYD30IEhszYD30IEhszYD30IEhszYD4+IEhszYD30IEhszYD30IEhszYD30IEhszYD30IEhszYD",
    "30IEhszYD"]),
  ("America/Anchorage",
    String.join ["FjivQimoPimpfh-ofh4nfmgn0hidBh94xh3PCiugn63RDn5lYChyusIDhijYChikIDhijYChikIDhjtYChikIDhi",
    "jYChikIDhijYCtkIDh3jYC2qIDht9YChikIDhjtYChg6IDhjtYChikIDhijYChikIDhijYChikIDhijYChikIDhi",
    "jYChikIDhjtYChg6IDilxYEhijYDhikIEhijYDhikIEhijYD+mIEhmhYD+mIEhnrYD88IEhnrYD88IEhnrYD+mIE",
    "hmhYD+mIEhmhYD+mIEhnrYD88IEhnrYD88IEhnrYD+mIEhmhYD+mIEhmhYD+mIEhmhYD+mIEhnrYD88IEhnrYD88",
    "IEhnrYD+mIEhmhYD+mIEhmhYD+mIEhnrYD88IEhnrYD88IEhnrYD4+IEhszYD30IEhszYD30IEhszYD4+IEhszYD",
    "30IEhszYD30IEhszYD30IEhszYD30IEhszYD30IEhszYD4+IEhszYD30IEhszYD30IEhszYD30IEhszYD30IEhsz",
    "YD4+IEhszYD30IEhszYD30IEhszYD30IEhszYD30IEhszYD30IEhszYD4+IEhszYD30IEhszYD30IEhszYD30IEh",
    "szYD30IEhszYD4+IEhszYD30IEhszYD30IEhszYD30IEhszYD30IEhszYD30IEhszYD4+IEhszYD30IEhszYD30I",
    "EhszYD30IEhszYD30IEhszYD30IEhszYD4+IEhszYD30IEhszYD30IEhszYD30IEhszYD30IEhszYD4+IEhszYD3",
    "0IEhszYD30IEhszYD30IEhszYD30IEhszYD30IEhszYD4+IEhszYD30IEhszYD30IEhszYD30IEhszYD30IEhszY",
    "D4+IEhszYD30IEhszYD30IEhszYD30IEhszYD30IEhszYD30IEhszYD4+IEhszYD30IEhszYD30IEhszYD30IEhs",
    "zYD30IEhszYD30IEhszYD4+IEhszYD30IEhszYD30IEhszYD30IEhszYD30IEhszYD4+IEhszYD30IEhszYD30IE",
    "hszYD30IEhszYD30IEhszYD30IEhszYD4+IEhszYD30IEhszYD30IEhszYD30IEhszYD30IEhszYD4+IEhszYD30",
    "IEhszYD30IEhszYD30IEhszYD30IEhszYD30IEhszYD4+IEhszYD30IEhszYD30IEhszYD30IEhszYD30IEhszYD",
    "30IEhszYD"]),
  ("America/Araguaina",
    String.join ["D2yf1ifuhfjpq2l8fBhhszq7BChh7ABhi2IChh3YBhj1wIC5wABhq+AC21YBht4IC27YBht4ICw7YB3h6ICvxYBh",
    "-gICrhYBht+ICw7YBht+IC2vYBht+IC21YBhl6qIC49YBhqgIC0-YBhvuICz1YBhvoICz1YBhwyIC2pYBskwIC2p",
    "YBhs0IC49YBhrwIC7rYBhqgIC49YBhqgIC7xYBhqgIC49YBhs0IC3zYBhwyICz1YB026IC2pYB"]),
  ("America/Argentina/Buenos_Aires",
    String.join ["F7sX+if8jf1ifuhfktstr7HBhv+3zuJCz9jhxBD21YChk+ID57YCht+ID2vYCht+ID2vYCht+ID2vYCht+ID21YC",
    "ht+ID2vYCht+ID2vYCht+ID2vYCht+ID21YC28IDihtYC28IDj65YCuiIDli3YChokIDhkslYCuiIDutYChq4ID5",
    "1YChq4ID51YChq4ID-1YChikIDhjtYChikIDhijYChikIDpmxYEyrYD-ngIExzYDhqgIE6nYDhrqIE49YDhrqIE4",
    "9YDhrqIE6nYD-2yIEutYDho2IE7xYD"]),
  ("America/Argentina/Catamarca",
    String.join ["F+6X+if8jf1ifuhfktstotHBhv+3wgJCz9jhxBD21YChk+ID57YCht+ID2vYCht+ID2vYCht+ID2vYCht+ID21YC",
    "ht+ID2vYCht+ID2vYCht+ID2vYCht+ID21YC28IDihtYC28IDj65YCuiIDli3YChokIDhkslYCuiIDutYChq4ID5",
    "1YChq4ID51YChq4ID-1YChikIDhjtYChikIDhijYChikIDpmxYEyrYD-ngIExzYDhqgIE6nYDhrqIE49YChrqQE4",
    "9QDhrqIE6nYD4hwICjyIDnxvYEutYD"]),
  ("America/Argentina/Cordoba",
    String.join ["E+if8jf1ifuhfi9t14sfBz9jhxBC21YBhk+IC57YBht+IC2vYBht+IC2vYBht+IC2vYBht+IC21YBht+IC2vYBht",
    "+IC2vYBht+IC2vYBht+IC21YB28ICihtYB28ICj65YBuiICli3YBhokIChkslYBuiICutYBhq4IC51YBhq4IC51Y",
    "Bhq4IC-1YBhikIChjtYBhikIChijYBhikICpmxYDyrYC-ngIDxzYChqgID6nYChrqID49YBhrqQD49QChrqID6nY",
    "C-2yIDutYCho2ID7xYC"]),
  ("America/Argentina/Jujuy",
    String.join ["F+zP+if8jf1ifuhfktsto0PBhv+3wnRCz9jhxBD21YChk+ID57YCht+ID2vYCht+ID2vYCht+ID2vYCht+ID21YC",
    "ht+ID2vYCht+ID2vYCht+ID2vYCht+ID21YC28IDihtYC28IDj65YCuiIDli3YChokIDhkslYCuiIDutYChq4ID5",
    "1YChq4ID51YChq4ID-1YChikIDhjtYChikIDhijYChikIDpmxYEyrYD-ngIExzYDhqgIE6nYChs0QD6nYChmiIE7",
    "xQDhrqIE6nYD-2yIEutYD"]),
  ("America/Argentina/La_Rioja",
    String.join ["F-qX+if8jf1ifuhfktstn9HBhv+3vwJCz9jhxBD21YChk+ID57YCht+ID2vYCht+ID2vYCht+ID2vYCht+ID21YC",
    "ht+ID2vYCht+ID2vYCht+ID2vYCht+ID21YC28IDihtYC28IDj65YCuiIDli3YChokIDhkslYCuiIDutYChq4ID5",
    "1YChq4ID51YChq4ID-1YChikIDhjtYChikIDhijYChikIDpmxYEyrYD-ngIExzYDhqgIE6nYDhrqIE4xYCsyQD-j",
    "YE49YDhrqIE6nYD4hwICjyIDnxvYEutYD"]),
  ("America/Argentina/Mendoza",
    String.join ["FhgoH+if8jf1ifuhfktstm-XBhv+3uyZCz9jhxBD21YChk+ID57YCht+ID2vYCht+ID2vYCht+ID2vYCht+ID21Y",
    "Cht+ID2vYCht+ID2vYCht+ID2vYCht+ID21YC28IDihtYC28IDj65YCuiIDli3YChokIDhkslYCuiIDutYChq4ID",
    "51YChq4ID51YChq4ID-1YChikIDhjtYChikIDhijYChikIDpmxYEyrYD-ngIExzYDhqgIE6nYChqmQD51YChq4ID",
    "57YChrqIE6nQD3-6IC30IDm-jYEutYD"]),
  ("America/Argentina/Rio_Gallegos",
    String.join ["FhguH+if8jf1ifuhfktstm5XBhv+3usZCz9jhxBD21YChk+ID57YCht+ID2vYCht+ID2vYCht+ID2vYCht+ID21Y",
    "Cht+ID2vYCht+ID2vYCht+ID2vYCht+ID21YC28IDihtYC28IDj65YCuiIDli3YChokIDhkslYCuiIDutYChq4ID",
    "51YChq4ID51YChq4ID-1YChikIDhjtYChikIDhijYChikIDpmxYEyrYD-ngIExzYDhqgIE6nYDhrqIE49YDhrqIE",
    "49YDhrqIE6nYD4hwICjyIDnxvYEutYD"]),
  ("America/Argentina/Salta",
    String.join ["F+1H+if8jf1ifuhfktstoyXBhv+3wlZCz9jhxBD21YChk+ID57YCht+ID2vYCht+ID2vYCht+ID2vYCht+ID21YC",
    "ht+ID2vYCht+ID2vYCht+ID2vYCht+ID21YC28IDihtYC28IDj65YCuiIDli3YChokIDhkslYCuiIDutYChq4ID5",
    "1YChq4ID51YChq4ID-1YChikIDhjtYChikIDhijYChikIDpmxYEyrYD-ngIExzYDhqgIE6nYDhrqIE49YChrqQE4",
    "9QDhrqIE6nYD-2yIEutYD"]),
  ("America/Argentina/San_Juan",
    String.join ["FhgjX+if8jf1ifuhfktstnkHBhv+3u3JCz9jhxBD21YChk+ID57YCht+ID2vYCht+ID2vYCht+ID2vYCht+ID21Y",
    "Cht+ID2vYCht+ID2vYCht+ID2vYCht+ID21YC28IDihtYC28IDj65YCuiIDli3YChokIDhkslYCuiIDutYChq4ID",
    "51YChq4ID51YChq4ID-1YChikIDhjtYChikIDhijYChikIDpmxYEyrYD-ngIExzYDhqgIE6nYDhrqIE4xYCsyQD-",
    "jYE49YDhrqIE6nYD4hqICqqIDnq9YEutYD"]),
  ("America/Argentina/San_Luis",
    String.join ["F-jH+if8jf1ifuhfktstokXBhv+3v3ZCz9jhxBD21YChk+ID57YCht+ID2vYCht+ID2vYCht+ID2vYCht+ID21YC",
    "ht+ID2vYCht+ID2vYCht+ID2vYCht+ID21YC28IDihtYC28IDj65YCuiIDli3YChokIDhkslYCuiIDutYChq4ID5",
    "1YChq4ID51YChq4ID-1YChikIDhjtYChikIDhijYChikIDpmxYEyrYD-ngIExzYDhqgIE8jYChoqQD51YCxoID76",
    "nYCqqIDnq9YEkjYDpgICho2ID7xYCho2ID"]),
  ("America/Argentina/Tucuman",
    String.join ["F+yH+if8jf1ifuhfktsto1XBhv+3woZCz9jhxBD21YChk+ID57YCht+ID2vYCht+ID2vYCht+ID2vYCht+ID21YC",
    "ht+ID2vYCht+ID2vYCht+ID2vYCht+ID21YC28IDihtYC28IDj65YCuiIDli3YChokIDhkslYCuiIDutYChq4ID5",
    "1YChq4ID51YChq4ID-1YChikIDhjtYChikIDhijYChikIDpmxYEyrYD-ngIExzYDhqgIE6nYDhrqIE49YChrqQE4",
    "9QDhrqIE6nYD4hwICioIDny5YEutYDho2IE7xYD"]),
  ("America/Argentina/Ushuaia",
    String.join ["FhggP+if8jf1ifuhfktstnnPBhv+3u6RCz9jhxBD21YChk+ID57YCht+ID2vYCht+ID2vYCht+ID2vYCht+ID21Y",
    "Cht+ID2vYCht+ID2vYCht+ID2vYCht+ID21YC28IDihtYC28IDj65YCuiIDli3YChokIDhkslYCuiIDutYChq4ID",
    "51YChq4ID51YChq4ID-1YChikIDhjtYChikIDhijYChikIDpmxYEyrYD-ngIExzYDhqgIE6nYDhrqIE49YDhrqIE",
    "49YDhrqIE6nYD4hkICj+IDnxvYEutYD"]),
  ("America/Asuncion",
    String.join ["D7gf8jf1ifin9glmfBitivyrBCjmxYBjm4IC8vYBhokIC8pYBhokIC8pYBhokIChijYBhiqIChipYBhiqIChijYB",
    "hiqIChijYBhiqIChijYBhiqIChipYBhiqIChijYBhiqIChijYBhiqIChijYBhiqIChipYBhiqIChijYBhmoIC+lY",
    "BhiqIChijYBhjoIC7xYBho8IChhlYBhiwIC79YBhowIC73YBho2IC8vYBhpiIC6nYBhqgIC7xYBho2IC87YBhnsI",
    "C87YBhnsIC87YBho2IChijYB7yICho1YB88IChnrYBhk4IC7xYBho2IC7xYBho2IC7xYBhqgIC6nYBhqgIC6nYBh",
    "qgIChg5YBhg6IChjtYBhg6IChjtYBhikIC-vYBhk4IC-vYBhk4IC-vYBhk4IChg5YBhjuIChg5YBhjuIChg5YBhk",
    "4IC-vYBhk4IC-vYBhk4IChg5YBhjuIChg5YBhjuIChg5YBhjuIChg5YBhk4IC"]),
  ("America/Bahia",
    String.join ["DyhX1ifuhfjpq2quHBhhszvsJChh7ABhi2IChh3YBhj1wIC5wABhq+AC21YBht4IC27YBht4ICw7YB3h6ICvxYBh",
    "-gICrhYBht+ICw7YBht+IC2vYBht+IC21YBhl6qIC49YBhqgIC0-YBhvuICz1YBhvoICz1YBhwyIC2pYBhvoIC2p",
    "YBht+IC0-YBhwyICyrYBhwyIC3zYBhs0IC3zYBhs0IC2pYBhs0IC49YBhrwIC7rYBhqgIC49YBhqgIC7xYBhqgIC",
    "49YBhs0IC3zYBhwyICz1YByxoIC49YB"]),
  ("America/Bahia_Banderas",
    String.join ["EhxqXhxmfhqlfhjkfi6pkr4fBr0sACnrjYB-kIC87YBhiqIC1xhYBjzviYChmhYB+mIChmhYB+mIChmhYB+mIChn",
    "rYB88IChnrYBhjuIC7xYBhjuIChmhYB+mIChmhYB+mIChnrYB88IChnrYB88IChnrYB88IChnrYB+mIChmhYB+mI",
    "ChmhYB+mIDhnrQC88IDhnrYC88IDhnrYC+mIDhmhYC+mIDhmhYC+mIDhmhYC+mIDhnrYC88IDhnrYC88IDhnrYC+",
    "mIDhmhYC+mIDhmhYC+mIDhnrYC88IDhnrYC"]),
  ("America/Barbados",
    "E7+J8jf1if4zPjt39rpVBh50sxmXC5kIBht3YC30IBho7YD82IBimjiAC0-YBhk4IC-vYBhk4IC-vYBhmiIC9zYB"),
  ("America/Belem",
    String.join ["D23H1ifuhfjpq2l4XBhhszq2ZChh7ABhi2IChh3YBhj1wIC5wABhq+AC21YBht4IC27YBht4ICw7YB3h6ICvxYBh",
    "-gICrhYBht+ICw7YBht+IC2vYBht+IC21YBhl6qIC49YBhqgIC0-YBhvuICz1YB"]),
  ("America/Belize",
    String.join ["Ehpqfhqlfhm1Phjkfjs0kzkfBsohxjBC3zcBhs0EC49cBhrqEC49cBhrqEC49cBhs0EC3zcBhs0EC3zcBhs0EC49",
    "cBhrqEC49cBhrqEC49cBhrqEC49cBhs0EC3zcBhs0EC3zcBhs0EC49cBhrqEC49cBhrqEC49cBhs0EC3zcBhs0EC",
    "3zcBhs0EC3zcBhs0EC49cBhrqEC49cBhrqEC49cBhs0EC3zcBhs0EC3zcBhs0EC49cB4+EDntxYBj7sIC49cBhrq",
    "EC49cBhrqEC49cBhs0EC3zcBhs0EC3zcBhs0EC49cBhrqEC49cBhrqEC49cBhrqEC49cBhs0EC3zcBhs0EC3zcBh",
    "s0EC49cBhrqEC49cBhrqEC49cBhs0EC3zcBhs0EC3zcBhs0EC3zcBhs0EC49cBhrqEC49cBhrqEC49cBhs0EC3zc",
    "BsuoEDsrYBy+sIDqvYB"]),
  ("America/Boa_Vista",
    String.join ["D8tf8jf1ifjpq2ghfBhhszshBChh7ABhi2IChh3YBhj1wIC5wABhq+AC21YBht4IC27YBht4ICw7YB3h6ICvxYBh",
    "-gICrhYBht+ICw7YBht+IC2vYBht+IC21YBhl6qIC49YBhqgIC0-YBhvuICz1YB4+gIC7xYBhqgIChpYB"]),
  ("America/Bogota",
    "Dhi2fhjkf8jfjn0+1ofBkx1su+BCh0vYB"),
  ("America/Boise",
    String.join ["Eh2vBh4nfhxmfhqlflh-vyzfBipxnQChnrYB88IChnrYBny6IChoj5YDn5lYChul8IDhijYChikIDhijYChikIDh",
    "ijYChikIDhijYChikIDhjtYChikIDhijYChikIDhijYCysIDhx7YC2qIDht9YChikIDhjtYChg6IDhjtYChikIDh",
    "ijYChikIDhijYChikIDhijYChikIDhijYChikIDhjtYChg6IDhjtYChikIDhijYChikIDhijYChikIDhijYC+mID",
    "hmhYC+mIDhnrYC88IDhnrYC88IDhnrYC+mIDhmhYC+mIDhmhYC+mIDhnrYC88IDhnrYC88IDhnrYC+mIDhmhYC+m",
    "IDhmhYC+mIDhmhYC+mIDhnrYC88IDhnrYC88IDhnrYC+mIDhmhYC+mIDhmhYC+mIDhnrYC88IDhnrYC88IDhnrYC",
    "4+IDhszYC30IDhszYC30IDhszYC4+IDhszYC30IDhszYC30IDhszYC30IDhszYC30IDhszYC30IDhszYC4+IDhsz",
    "YC30IDhszYC30IDhszYC30IDhszYC30IDhszYC4+IDhszYC30IDhszYC30IDhszYC30IDhszYC30IDhszYC30IDh",
    "szYC4+IDhszYC30IDhszYC30IDhszYC30IDhszYC30IDhszYC4+IDhszYC30IDhszYC30IDhszYC30IDhszYC30I",
    "DhszYC30IDhszYC4+IDhszYC30IDhszYC30IDhszYC30IDhszYC30IDhszYC30IDhszYC4+IDhszYC30IDhszYC3",
    "0IDhszYC30IDhszYC30IDhszYC4+IDhszYC30IDhszYC30IDhszYC30IDhszYC30IDhszYC30IDhszYC4+IDhszY",
    "C30IDhszYC30IDhszYC30IDhszYC30IDhszYC4+IDhszYC30IDhszYC30IDhszYC30IDhszYC30IDhszYC30IDhs",
    "zYC4+IDhszYC30IDhszYC30IDhszYC30IDhszYC30IDhszYC30IDhszYC4+IDhszYC30IDhszYC30IDhszYC30ID",
    "hszYC30IDhszYC4+IDhszYC30IDhszYC30IDhszYC30IDhszYC30IDhszYC30IDhszYC4+IDhszYC30IDhszYC30",
    "IDhszYC30IDhszYC30IDhszYC4+IDhszYC30IDhszYC30IDhszYC30IDhszYC30IDhszYC30IDhszYC4+IDhszYC",
    "30IDhszYC30IDhszYC30IDhszYC30IDhszYC30IDhszYC"]),
  ("America/Cambridge_Bay",
    String.join ["EAhxmfhqlfhjkfi+h05nfBhvqkICn5lYBh48uIChijYBhikIChijYBhikIChijYBhikIChijYBhikIChjtYBhg6I",
    "ChjtYBhikIChijYBhikIChijYBhikIChijYBhikIChijYBhikIChjtYBhg6IChjtYBhikIChijYBhikIChijYBhi",
    "kIChijYB+mIChmhYB+mIChnrYB88IChnrYB88IChnrYB+mIChmhYB+mIChmhYB+mIChnrYB88IChnrYB88IChnrY",
    "B+mIChmhYB+mIChmhYB+mIChmhYB+mICiknYDho1ICii+YB+mIChmhYB+mIChmhYB+mIChnrYB88IChnrYB88ICh",
    "nrYB4+IChszYB30IChszYB30IChszYB4+IChszYB30IChszYB30IChszYB30IChszYB30IChszYB30IChszYB4+I",
    "ChszYB30IChszYB30IChszYB30IChszYB30IChszYB4+IChszYB30IChszYB30IChszYB30IChszYB30IChszYB3",
    "0IChszYB4+IChszYB30IChszYB30IChszYB30IChszYB30IChszYB4+IChszYB30IChszYB30IChszYB30IChszY",
    "B30IChszYB30IChszYB4+IChszYB30IChszYB30IChszYB30IChszYB30IChszYB30IChszYB4+IChszYB30IChs",
    "zYB30IChszYB30IChszYB30IChszYB4+IChszYB30IChszYB30IChszYB30IChszYB30IChszYB30IChszYB4+IC",
    "hszYB30IChszYB30IChszYB30IChszYB30IChszYB4+IChszYB30IChszYB30IChszYB30IChszYB30IChszYB30",
    "IChszYB4+IChszYB30IChszYB30IChszYB30IChszYB30IChszYB30IChszYB4+IChszYB30IChszYB30IChszYB",
    "30IChszYB30IChszYB4+IChszYB30IChszYB30IChszYB30IChszYB30IChszYB30IChszYB4+IChszYB30IChsz",
    "YB30IChszYB30IChszYB30IChszYB4+IChszYB30IChszYB30IChszYB30IChszYB30IChszYB30IChszYB4+ICh",
    "szYB30IChszYB30IChszYB30IChszYB30IChszYB30IChszYB"]),
  ("America/Campo_Grande",
    String.join ["D5zH8jf1ifjpq2i8XBhhszu7ZChh7ABhi2IChh3YBhj1wIC5wABhq+AC21YBht4IC27YBht4ICw7YB3h6ICvxYBh",
    "-gICrhYBht+ICw7YBht+IC2vYBht+IC21YBhl6qIC49YBhqgIC0-YBhvuICz1YBhvoICz1YBhwyIC2pYBhvoIC2p",
    "YBht+IC0-YBhwyICyrYBhwyIC3zYBhs0IC3zYBhs0IC2pYBhs0IC49YBhrwIC7rYBhqgIC49YBhqgIC7xYBhqgIC",
    "49YBhs0IC3zYBhwyICz1YBht+IC2pYBhw+IC0zYBhs0IC3zYBhwyIC0-YBhrqIC3zYBht+IC2pYBht+IC3zYBhs0",
    "IC3zYBhs0IC49YBhs0IC2pYBht+IC2pYBht+IC3zYBhs0IC3zYBhs0IC3zYBhs0IC3zYBhwyICz1YB"]),
  ("America/Cancun",
    String.join ["Eho1Phqlfhjkf8jfi6pky5fBkgr+QCimjIB8r8YChmhYB+mICiknYD2pYCv4IB+mIChnrYB88IChnrYBhjuIC7xY",
    "BhjuIChmhYB+mIChmhYB+mIChnrYB88IChnrYB88IChnrYB88IChnrYB+mIChmhYB+mIChmhYB+mIChnrYB88ICh",
    "nrYB88IChnrYB+mIChmhYB+mIChmhYBysIC"]),
  ("America/Caracas",
    "E-rf-rX-0P8jfk2vjy7fBhpy8o-ZCjjvrggZDi78sUCx+8AD"),
  ("America/Cayenne",
    "D4wf8jf1ifjuhvqmfBjp58ljBC"),
  ("America/Chicago",
    String.join ["DhpiXhqlfhjkflh-wg1fBipxnQChnrYB88IChnrYBhrqIC6nYB7yICho1YBhikIC7xYBho2IC87YBhnsIC87YBhn",
    "sIC87YBhnsIC87YBhnsIC87YBho2IC87YBhnsIC87YBhnsIC87YBhnsIC87YBhnsIC87YBho2IC7xYBho2IC87YB",
    "hnsIC87YB88IChwxYB+mIC87YBhnsIC87YBho2IC7xYBho2IC87YBhnsIC87YB5kICn5lYBhnsIC87YBhnsIC87Y",
    "BhnsIC87YBhnsIC87YBho2IC7xYBho2IC87YBhnsIC87YBhnsIC87YBhnsIC87YBhnsIChjtYBhikIChijYBhikI",
    "ChijYBhikIChijYBhikIChijYBhikIChjtYBhikIChijYBhikIChijYBhikIChijYBhikIChijYBhikIChjtYBhg",
    "6IChjtYBhikIChijYBhikIChijYBhikIChijYBhikIChijYBhikIChjtYBhikIChijYBhikIChijYBtkICh3jYB2",
    "qICht9YBhikIChjtYBhg6IChjtYBhikIChijYBhikIChijYBhikIChijYBhikIChijYBhikIChjtYBhg6IChjtYB",
    "hikIChijYBhikIChijYBhikIChijYB+mIChmhYB+mIChnrYB88IChnrYB88IChnrYB+mIChmhYB+mIChmhYB+mIC",
    "hnrYB88IChnrYB88IChnrYB+mIChmhYB+mIChmhYB+mIChmhYB+mIChnrYB88IChnrYB88IChnrYB+mIChmhYB+m",
    "IChmhYB+mIChnrYB88IChnrYB88IChnrYB4+IChszYB30IChszYB30IChszYB4+IChszYB30IChszYB30IChszYB",
    "30IChszYB30IChszYB30IChszYB4+IChszYB30IChszYB30IChszYB30IChszYB30IChszYB4+IChszYB30IChsz",
    "YB30IChszYB30IChszYB30IChszYB30IChszYB4+IChszYB30IChszYB30IChszYB30IChszYB30IChszYB4+ICh",
    "szYB30IChszYB30IChszYB30IChszYB30IChszYB30IChszYB4+IChszYB30IChszYB30IChszYB30IChszYB30I",
    "ChszYB30IChszYB4+IChszYB30IChszYB30IChszYB30IChszYB30IChszYB4+IChszYB30IChszYB30IChszYB3",
    "0IChszYB30IChszYB30IChszYB4+IChszYB30IChszYB30IChszYB30IChszYB30IChszYB4+IChszYB30IChszY",
    "B30IChszYB30IChszYB30IChszYB30IChszYB4+IChszYB30IChszYB30IChszYB30IChszYB30IChszYB30IChs",
    "zYB4+IChszYB30IChszYB30IChszYB30IChszYB30IChszYB4+IChszYB30IChszYB30IChszYB30IChszYB30IC",
    "hszYB30IChszYB4+IChszYB30IChszYB30IChszYB30IChszYB30IChszYB4+IChszYB30IChszYB30IChszYB30",
    "IChszYB30IChszYB30IChszYB4+IChszYB30IChszYB30IChszYB30IChszYB30IChszYB30IChszYB"]),
  ("America/Chihuahua",
    String.join ["Ehx3Hhxmfhqlfhjkfi6pkr4fBr0sACnrjYB-kIC87YBhiqICkpgkIDhmhYC+mIDhmhYCikoIB+mIChnrYB88IChn",
    "rYBhjuIC7xYBhjuIChmhYB+mIChmhYB+mIChnrYB88IChnrYB88IChnrYB88IChnrYB+mIChmhYB+mIChmhYB+mI",
    "ChnrYB88IChnrYB88IChnrYB+mIChmhYB+mIChmhYB+mIChmhYB+mIChnrYB88IChnrYB88IChnrYB+mIChmhYB+",
    "mIChmhYB+mIChnrYB88IC"]),
  ("America/Ciudad_Juarez",
    String.join ["Ehx9Hhxmfhqlfhjkfi6pkr4fBr0sACnrjYB-kIC87YBhiqICkpgkIDhmhYC+mIDhmhYCikoIB+mIChnrYB88IChn",
    "rYBhjuIC7xYBhjuIChmhYB+mIChmhYB+mIChnrYB88IChnrYB88IChnrYB88IChnrYB+mIChmhYB+mIChmhYB6oI",
    "ChszYB30IChszYB30IChszYB30IChszYB30IChszYB30IChszYB4+IChszYB30IChszYB30IChszYB30IChszYB3",
    "0IChszYB4+IChszYB30IChxjIBzkYChszYB30IChszYB30IChszYB30IChszYB4+IChszYB30IChszYB30IChszY",
    "B30IChszYB30IChszYB4+IChszYB30IChszYB30IChszYB30IChszYB30IChszYB30IChszYB4+IChszYB30IChs",
    "zYB30IChszYB30IChszYB30IChszYB30IChszYB4+IChszYB30IChszYB30IChszYB30IChszYB30IChszYB4+IC",
    "hszYB30IChszYB30IChszYB30IChszYB30IChszYB30IChszYB4+IChszYB30IChszYB30IChszYB30IChszYB30",
    "IChszYB4+IChszYB30IChszYB30IChszYB30IChszYB30IChszYB30IChszYB4+IChszYB30IChszYB30IChszYB",
    "30IChszYB30IChszYB30IChszYB4+IChszYB30IChszYB30IChszYB30IChszYB30IChszYB4+IChszYB30IChsz",
    "YB30IChszYB30IChszYB30IChszYB30IChszYB4+IChszYB30IChszYB30IChszYB30IChszYB30IChszYB4+ICh",
    "szYB30IChszYB30IChszYB30IChszYB30IChszYB30IChszYB4+IChszYB30IChszYB30IChszYB30IChszYB30I",
    "ChszYB30IChszYB"]),
  ("America/Costa_Rica",
    "DhnsZhqlfhjkfi8i-07FBjtp45xHCyrYBhx8ICyrYB24oIC+xYBhl2ICq1YB"),
  ("America/Coyhaique",
    String.join ["Fhh4fhhkJhjkf8jf1ifk2vjwufBhl1k0jLCslyvgXBkj-+3LDhwunvXBvr4jgLDhjji3XC82IDhn3YC82IDhn3YC",
    "82IDhn3YC82IDhn9YC82ID07vYCruIDp-vYCpyADht9oAE7xYDhs0IE3zYDhk4IE87YDhnsIE87YDho2IE7xYDhm",
    "iIE+lYDho2IE7xYDho2IE87YDhnsIE87YDhnsIE87YDho2IE7xYDho2IE7xYDho2IE87YDhnsIE87YDhnsIE87YD",
    "hnsIE87YDho2IE7xYDho2IE7xYDho2IEhijYDhikIE87YDhnsIE87YDho2IE7xYDhjuIEhg5YDho2IE87YDhnsIE",
    "87YDhnsIE87YDhnsIE87YDho2IE7xYDho2IE-vYDhk4IE87YDhk4IEhjtYDhjuIE87YDho2IE7xYDho2IE7xYDho",
    "2IE7xYDho2IE87YDhnsIE87YDhnsIE87YDho2IE7xYDho2IE-vYDhk4IE87YDhnsIEhg5YDhjuIEhnrYDz2IEhvn",
    "YD30IEhszYD4+IEhrpYD4+IEjzvYDxiIEhzlYDxiIEhzlYDxiIEhszYD88IEhnrYD88IEhnrYD88IEhnrYD+mIEh",
    "mhYD88IEho1YD88IE"]),
  ("America/Cuiaba",
    String.join ["D6pH8jf1ifjpq2imXBhhszulZChh7ABhi2IChh3YBhj1wIC5wABhq+AC21YBht4IC27YBht4ICw7YB3h6ICvxYBh",
    "-gICrhYBht+ICw7YBht+IC2vYBht+IC21YBhl6qIC49YBhqgIC0-YBhvuICz1YBhvoICz1YBhwyIC2pYBhvoIC2p",
    "YBht+IC0-YBhwyICyrYBhwyIC3zYBhs0IC3zYBhs0IC2pYBhs0IC49YBhrwIC7rYBhqgIC49YBhqgIC7xYBhqgIC",
    "49YBhs0IC3zYBhwyICz1YBj1mIC0zYBhs0IC3zYBhwyIC0-YBhrqIC3zYBht+IC2pYBht+IC3zYBhs0IC3zYBhs0",
    "IC49YBhs0IC2pYBht+IC2pYBht+IC3zYBhs0IC3zYBhs0IC3zYBhs0IC3zYBhwyICz1YB"]),
  ("America/Danmarkshavn",
    String.join ["Eo3f1ifuhfAjkv+7vfBj35051BChg5ABhikAChikABhikAChikABhikAChikABhikAChjuABhikAChikABhikACh",
    "ikABhikAChikABhikAChikABhikAChikABhikAChjuABhikAChikABhikAChikABhikAChikABhikAChikABhikA",
    "ChikAByyQD"]),
  ("America/Dawson",
    String.join ["EihrHh-ofh4nfhxmfkivl40XBhhmo+vZChk3YBhnsIC9-IBhv1wYCn5lYBhp8hYDhjuABxjqACt8+IDhijYChikI",
    "DhijYChikIDhjtYChg6IDhjtYChikIDhijYChikIDhijYChikIDhijYC+mIDhmhYC+mIDhnrYC88IDhnrYC88IDh",
    "nrYC+mIDhmhYC+mIDhmhYC+mIDhnrYC88IDhnrYC88IDhnrYC+mIDhmhYC+mIDhmhYC+mIDhmhYC+mIDhnrYC88I",
    "DhnrYC88IDhnrYC+mIDhmhYC+mIDhmhYC+mIDhnrYC88IDhnrYC88IDhnrYC4+IDhszYC30IDhszYC30IDhszYC4",
    "+IDhszYC30IDhszYC30IDhszYC30IDhszYC30IDhszYC30IDhszYC4+IDhszYC30IDhszYC30IDhszYC30IDhszY",
    "C30ID"]),
  ("America/Dawson_Creek",
    String.join ["Dh4rPh4nfhxmflh4ql8PBigvtk2RChk3YBhx68ICn5lYBjr0IC87YBhnsIC87YBhnsIC87YBho2IC7xYBho2IC87",
    "YBhnsIC87YBhnsIC87YBhnsIC87YBhnsIC87YBho2IC87YBhnsIC87YBhnsIC87YBhnsIC87YBhnsIC87YBho2IC",
    "7xYBho2IChijYBhikIChijYBhikIChijYBhikIChjtYBhg6IChjtYBhikIChijYBhikIChijYBhikIChijYBhikI",
    "ChijYBhikIChjtYBhikIC"]),
  ("America/Denver",
    String.join ["DhxmXhxmfhqlflh-v50fBipxnQChnrYB88IChnrYB88ICho1YB7yICqvYBhsrgICn5lYBhp8iIChjtYBhg6IChjt",
    "YBhikIChijYBhikIChijYBhikIChijYBhikIChijYBhikIChjtYBhikIChijYBhikIChijYBtkICh3jYB2qICht9",
    "YBhikIChjtYBhg6IChjtYBhikIChijYBhikIChijYBhikIChijYBhikIChijYBhikIChjtYBhg6IChjtYBhikICh",
    "ijYBhikIChijYBhikIChijYB+mIChmhYB+mIChnrYB88IChnrYB88IChnrYB+mIChmhYB+mIChmhYB+mIChnrYB8",
    "8IChnrYB88IChnrYB+mIChmhYB+mIChmhYB+mIChmhYB+mIChnrYB88IChnrYB88IChnrYB+mIChmhYB+mIChmhY",
    "B+mIChnrYB88IChnrYB88IChnrYB4+IChszYB30IChszYB30IChszYB4+IChszYB30IChszYB30IChszYB30IChs",
    "zYB30IChszYB30IChszYB4+IChszYB30IChszYB30IChszYB30IChszYB30IChszYB4+IChszYB30IChszYB30IC",
    "hszYB30IChszYB30IChszYB30IChszYB4+IChszYB30IChszYB30IChszYB30IChszYB30IChszYB4+IChszYB30",
    "IChszYB30IChszYB30IChszYB30IChszYB30IChszYB4+IChszYB30IChszYB30IChszYB30IChszYB30IChszYB",
    "30IChszYB4+IChszYB30IChszYB30IChszYB30IChszYB30IChszYB4+IChszYB30IChszYB30IChszYB30IChsz",
    "YB30IChszYB30IChszYB4+IChszYB30IChszYB30IChszYB30IChszYB30IChszYB4+IChszYB30IChszYB30ICh",
    "szYB30IChszYB30IChszYB30IChszYB4+IChszYB30IChszYB30IChszYB30IChszYB30IChszYB30IChszYB4+I",
    "ChszYB30IChszYB30IChszYB30IChszYB30IChszYB4+IChszYB30IChszYB30IChszYB30IChszYB30IChszYB3",
    "0IChszYB4+IChszYB30IChszYB30IChszYB30IChszYB30IChszYB4+IChszYB30IChszYB30IChszYB30IChszY",
    "B30IChszYB30IChszYB4+IChszYB30IChszYB30IChszYB30IChszYB30IChszYB30IChszYB"]),
  ("America/Detroit",
    String.join ["Ehm9Vhqlfhjkf8jfj6oru6JBzv946LCh5npYDn5lYClv8ID87YChjmr3qZD2y11JChikIDhijYCp0uIDhijYCtkI",
    "Dh3jYChikIDhijYChikIDhjtYChg6IDhjtYChikIDhijYChikIDhijYChikIDhijYChikIDhijYChikIDhjtYChg",
    "6IDhjtYChikIDhijYChikIDhijYChikIDhijYC+mIDhmhYC+mIDhnrYC88IDhnrYC88IDhnrYC+mIDhmhYC+mIDh",
    "mhYC+mIDhnrYC88IDhnrYC88IDhnrYC+mIDhmhYC+mIDhmhYC+mIDhmhYC+mIDhnrYC88IDhnrYC88IDhnrYC+mI",
    "DhmhYC+mIDhmhYC+mIDhnrYC88IDhnrYC88IDhnrYC4+IDhszYC30IDhszYC30IDhszYC4+IDhszYC30IDhszYC3",
    "0IDhszYC30IDhszYC30IDhszYC30IDhszYC4+IDhszYC30IDhszYC30IDhszYC30IDhszYC30IDhszYC4+IDhszY",
    "C30IDhszYC30IDhszYC30IDhszYC30IDhszYC30IDhszYC4+IDhszYC30IDhszYC30IDhszYC30IDhszYC30IDhs",
    "zYC4+IDhszYC30IDhszYC30IDhszYC30IDhszYC30IDhszYC30IDhszYC4+IDhszYC30IDhszYC30IDhszYC30ID",
    "hszYC30IDhszYC30IDhszYC4+IDhszYC30IDhszYC30IDhszYC30IDhszYC30IDhszYC4+IDhszYC30IDhszYC30",
    "IDhszYC30IDhszYC30IDhszYC30IDhszYC4+IDhszYC30IDhszYC30IDhszYC30IDhszYC30IDhszYC4+IDhszYC",
    "30IDhszYC30IDhszYC30IDhszYC30IDhszYC30IDhszYC4+IDhszYC30IDhszYC30IDhszYC30IDhszYC30IDhsz",
    "YC30IDhszYC4+IDhszYC30IDhszYC30IDhszYC30IDhszYC30IDhszYC4+IDhszYC30IDhszYC30IDhszYC30IDh",
    "szYC30IDhszYC30IDhszYC4+IDhszYC30IDhszYC30IDhszYC30IDhszYC30IDhszYC4+IDhszYC30IDhszYC30I",
    "DhszYC30IDhszYC30IDhszYC30IDhszYC4+IDhszYC30IDhszYC30IDhszYC30IDhszYC30IDhszYC30IDhszYC"]),
  ("America/Edmonton",
    String.join ["Dh1lfhxmfhqlfj3kk4xfB17nwrBChk3YB-wIConYBh+0IChjtYBhg6IC87YBho2IC7xYBho2IC87YBhnpyICn5lY",
    "Bjr0IC87YBh0z+IChijYBhikIChijYBhikIChijYBhikIChijYBhikIChjtYBhg6IChjtYBhikIChijYBhikIChi",
    "jYBhikIChijYBhikIChijYBhikIChjtYBhg6IChjtYBhikIChijYBhikIChijYBhikIChijYB+mIChmhYB+mIChn",
    "rYB88IChnrYB88IChnrYB+mIChmhYB+mIChmhYB+mIChnrYB88IChnrYB88IChnrYB+mIChmhYB+mIChmhYB+mIC",
    "hmhYB+mIChnrYB88IChnrYB88IChnrYB+mIChmhYB+mIChmhYB+mIChnrYB88IChnrYB88IChnrYB4+IChszYB30",
    "IChszYB30IChszYB4+IChszYB30IChszYB30IChszYB30IChszYB30IChszYB30IChszYB4+IChszYB30IChszYB",
    "30IChszYB30IChszYB30IChszYB4+IChszYB30IChszYB30IChszYB30IChszYB30IChszYB30IChszYB4+IChsz",
    "YB30IChszYB30IChszYB30IChszYB30IChszYB4+IChszYB30IChszYB30IChszYB30IChszYB30IChszYB30ICh",
    "szYB4+IChszYB30IChszYB30IChszYB30IChszYB30IChszYB30IChszYB4+IChszYB30IChszYB30IChszYB30I",
    "ChszYB30IChszYB4+IChszYB30IChszYB30IChszYB30IChszYB30IChszYB30IChszYB4+IChszYB30IChszYB3",
    "0IChszYB30IChszYB30IChszYB4+IChszYB30IChszYB30IChszYB30IChszYB30IChszYB30IChszYB4+IChszY",
    "B30IChszYB30IChszYB30IChszYB30IChszYB30IChszYB4+IChszYB30IChszYB30IChszYB30IChszYB30IChs",
    "zYB4+IChszYB30IChszYB30IChszYB30IChszYB30IChszYB30IChszYB4+IChszYB30IChszYB30IChszYB30IC",
    "hszYB30IChszYB4+IChszYB30IChszYB30IChszYB30IChszYB30IChszYB30IChszYB4+IChszYB30IChszYB30",
    "IChszYB30IChszYB30IChszYB30IChszYB"]),
  ("America/Eirunepe",
    String.join ["Dhg3fhjkf8jfjpq173fBhhszu4BChh7ABhi2IChh3YBhj1wIC5wABhq+AC21YBht4IC27YBht4ICw7YB3h6ICvxY",
    "Bh-gICrhYBht+ICw7YBht+IC2vYBht+IC21YBhl6qIC49YBhqgIC0-YBhvuICz1YBsl6IC3zYB+2kICrwtYB"]),
  ("America/El_Salvador",
    "Dhp5fhqlfhjkfi8lps9fBj8407sBC7xYBho2IC7xYB"),
  ("America/Fort_Nelson",
    String.join ["Dh5wNh4nfhxmflh4qk3RBigvtjxTChk3YBhx68ICn5lYBjr0IC87YBhnsIC87YBhnsIC87YBho2IC7xYBho2IC87",
    "YBhnsIC87YBhnsIC87YBhnsIC87YBhnsIC87YBho2IC87YBhnsIC87YBhnsIC87YBhnsIC87YBhnsIC87YBho2IC",
    "7xYBho2IChijYBhikIChijYBhikIChijYBhikIChjtYBhg6IChjtYBhikIChijYBhikIChijYBhikIChijYBhikI",
    "ChijYBhikIChjtYBhikIChijYBhikIChijYBhikIChijYBhikIChijYBhikIChjtYBhg6IChjtYBhikIChijYBhi",
    "kIChijYBhikIChijYBhikIChijYBhikIChjtYBhg6IChjtYBhikIChijYBhikIChijYBhikIChijYB+mIChmhYB+",
    "mIChnrYB88IChnrYB88IChnrYB+mIChmhYB+mIChmhYB+mIChnrYB88IChnrYB88IChnrYB+mIChmhYB+mIChmhY",
    "B+mIChmhYB+mIChnrYB88IChnrYB88IChnrYB+mIChmhYB+mIChmhYB+mIChnrYB88IChnrYB88IChnrYB4+IChs",
    "zYB30IChszYB30IChszYB4+IChszYB30IChszYB30IChszYB30IChszYB30IChszYB30IC"]),
  ("America/Fortaleza",
    String.join ["DyhP1ifuhfjpq2quPBhhszvsRChh7ABhi2IChh3YBhj1wIC5wABhq+AC21YBht4IC27YBht4ICw7YB3h6ICvxYBh",
    "-gICrhYBht+ICw7YBht+IC2vYBht+IC21YBhl6qIC49YBhqgIC0-YBhvuICz1YBhvoICz1YBhwyIC2pYB00mIC7x",
    "YBhqgICizYBii+IC3zYB"]),
  ("America/Glace_Bay",
    String.join ["D8jH8jf1ifj-h5r8XB947uyZChk3YBhx68ICn5lYBwmuIC87YBhn5kIChijYBhikIChijYBhikIChijYBhikIChi",
    "jYBhikIChjtYBhg6IChjtYBhikIChijYBhikIChijYBhikIChijYBhikIChijYBhikIChjtYBhg6IChjtYBhikIC",
    "hijYBhikIChijYBhikIChijYB+mIChmhYB+mIChnrYB88IChnrYB88IChnrYB+mIChmhYB+mIChmhYB+mIChnrYB",
    "88IChnrYB88IChnrYB+mIChmhYB+mIChmhYB+mIChmhYB+mIChnrYB88IChnrYB88IChnrYB+mIChmhYB+mIChmh",
    "YB+mIChnrYB88IChnrYB88IChnrYB4+IChszYB30IChszYB30IChszYB4+IChszYB30IChszYB30IChszYB30ICh",
    "szYB30IChszYB30IChszYB4+IChszYB30IChszYB30IChszYB30IChszYB30IChszYB4+IChszYB30IChszYB30I",
    "ChszYB30IChszYB30IChszYB30IChszYB4+IChszYB30IChszYB30IChszYB30IChszYB30IChszYB4+IChszYB3",
    "0IChszYB30IChszYB30IChszYB30IChszYB30IChszYB4+IChszYB30IChszYB30IChszYB30IChszYB30IChszY",
    "B30IChszYB4+IChszYB30IChszYB30IChszYB30IChszYB30IChszYB4+IChszYB30IChszYB30IChszYB30IChs",
    "zYB30IChszYB30IChszYB4+IChszYB30IChszYB30IChszYB30IChszYB30IChszYB4+IChszYB30IChszYB30IC",
    "hszYB30IChszYB30IChszYB30IChszYB4+IChszYB30IChszYB30IChszYB30IChszYB30IChszYB30IChszYB4+",
    "IChszYB30IChszYB30IChszYB30IChszYB30IChszYB4+IChszYB30IChszYB30IChszYB30IChszYB30IChszYB",
    "30IChszYB4+IChszYB30IChszYB30IChszYB30IChszYB30IChszYB4+IChszYB30IChszYB30IChszYB30IChsz",
    "YB30IChszYB30IChszYB4+IChszYB30IChszYB30IChszYB30IChszYB30IChszYB30IChszYB"]),
  ("America/Goose_Bay",
    String.join ["I8qH42Xx1X4zPxyP8jf1ifuhflh4rh9XBigvthmRChk3YBhjkzYDijnx8ZE7xYDho2IE7xYDho2IE7xYDhqgIE6n",
    "YDhqgIE7xYDho2IE7xYDho2IEnokIDhqgIE7xYDho2IE7xYDho2IE7xYDho2IE7xYDhqgIE7xYDhmiIE87YDhnsI",
    "E87YDhnsIE87YDhnsIE87YDhnsIE87YDho2IE87YDhnsIE87YDhnsIE87YDhnsIE87YDhnsIEhjtYDhikIEhijYD",
    "hikIEhijYDhikIEhijYDhikIEhijYDhikIEhjtYD5qIFnwEGhjtYFhikIGhijYFhikIGhijYFhikIGhijYFhikIG",
    "hijYFhikIGhjtYFhikIGhijYFhikIGhijYFhikIGhijYFhikIGhijYFhikIGhjtYFhg6IGhjtYFhikIGhijYFhik",
    "IGhijYFhikIGhijYFhikIGhijYFhikIGhjtYFhg6IGhjtYFhikIGhijYFhikIGhijYFhikIGhijYF6w56ZGhmhYF",
    "+mIHhnrQF88QGhnrYF88IGhnrYF+mIGhmhYF+mIGhmhYF+mIGhnrYF88IGhnrYF88IGhnrYF+mIGhmhYF+mIGhmh",
    "YF+mIGhmhYF+mIGhnrYF88IGhnrYF88IGhnrYF+mIGhmhYF+mIGhmhYF+mIGhnrYF88IGhnrYF88IGhnrYF4+IGh",
    "szYF30IGhszYF30IGhszYF4+IGhszYF30IGhnnptJF30IGhszYF30IGhszYF30IGhszYF30IGhszYF4+IGhszYF3",
    "0IGhszYF30IGhszYF30IGhszYF30IGhszYF4+IGhszYF30IGhszYF30IGhszYF30IGhszYF30IGhszYF30IGhszY",
    "F4+IGhszYF30IGhszYF30IGhszYF30IGhszYF30IGhszYF4+IGhszYF30IGhszYF30IGhszYF30IGhszYF30IGhs",
    "zYF30IGhszYF4+IGhszYF30IGhszYF30IGhszYF30IGhszYF30IGhszYF30IGhszYF4+IGhszYF30IGhszYF30IG",
    "hszYF30IGhszYF30IGhszYF4+IGhszYF30IGhszYF30IGhszYF30IGhszYF30IGhszYF30IGhszYF4+IGhszYF30",
    "IGhszYF30IGhszYF30IGhszYF30IGhszYF4+IGhszYF30IGhszYF30IGhszYF30IGhszYF30IGhszYF30IGhszYF",
    "4+IGhszYF30IGhszYF30IGhszYF30IGhszYF30IGhszYF30IGhszYF4+IGhszYF30IGhszYF30IGhszYF30IGhsz",
    "YF30IGhszYF4+IGhszYF30IGhszYF30IGhszYF30IGhszYF30IGhszYF30IGhszYF4+IGhszYF30IGhszYF30IGh",
    "szYF30IGhszYF30IGhszYF4+IGhszYF30IGhszYF30IGhszYF30IGhszYF30IGhszYF30IGhszYF4+IGhszYF30I",
    "GhszYF30IGhszYF30IGhszYF30IGhszYF30IGhszYF"]),
  ("America/Grand_Turk",
    String.join ["Ehhqfhj-bhjkf8jfk2vjw8fBhpxirsdCj+vm4vFDhijYChikIDhijYChikIDhijYChikIDhjtYChg6IDhjtYChik",
    "IDhijYChikIDhijYChikIDhijYC+mIDhmhYC+mIDhnrYC88IDhnrYC88IDhnrYC+mIDhmhYC+mIDhmhYC+mIDhnr",
    "YC88IDhnrYC88IDhnrYC+mIDhmhYC+mIDhmhYC+mIDhmhYC+mIDhnrYC88IDhnrYC88IDhnrYC+mIDhmhYC+mIDh",
    "mhYC+mIDhnrYC88IDhnrYC88IDhnrYC4+IDhszYC30IDhszYC30IDhszYC4+IDhszYC30IDhszYC30IDhszYC30I",
    "DhszYC30IDhszYC30IDn61YC30IDhszYC30IDhszYC4+IDhszYC30IDhszYC30IDhszYC30IDhszYC30IDhszYC3",
    "0IDhszYC4+IDhszYC30IDhszYC30IDhszYC30IDhszYC30IDhszYC4+IDhszYC30IDhszYC30IDhszYC30IDhszY",
    "C30IDhszYC30IDhszYC4+IDhszYC30IDhszYC30IDhszYC30IDhszYC30IDhszYC30IDhszYC4+IDhszYC30IDhs",
    "zYC30IDhszYC30IDhszYC30IDhszYC4+IDhszYC30IDhszYC30IDhszYC30IDhszYC30IDhszYC30IDhszYC4+ID",
    "hszYC30IDhszYC30IDhszYC30IDhszYC30IDhszYC4+IDhszYC30IDhszYC30IDhszYC30IDhszYC30IDhszYC30",
    "IDhszYC4+IDhszYC30IDhszYC30IDhszYC30IDhszYC30IDhszYC30IDhszYC4+IDhszYC30IDhszYC30IDhszYC",
    "30IDhszYC30IDhszYC4+IDhszYC30IDhszYC30IDhszYC30IDhszYC30IDhszYC30IDhszYC4+IDhszYC30IDhsz",
    "YC30IDhszYC30IDhszYC30IDhszYC4+IDhszYC30IDhszYC30IDhszYC30IDhszYC30IDhszYC30IDhszYC4+IDh",
    "szYC30IDhszYC30IDhszYC30IDhszYC30IDhszYC30IDhszYC"]),
  ("America/Guatemala",
    "DhqtXhqlfhjkfjgsoqyHBjn2-g4JCxhYBz4uIC3nYBwhyIC-vYB-q+IC87YB"),
  ("America/Guayaquil",
    "EhltPhk5Phjkf8jfk2vjs6PBitj0t8BCj0uq9rRDs9YC"),
  ("America/Guyana",
    "E7oN8jf6rX1ifjt8r4nRBm3x17TCkhp3eDhj0+CB"),
  ("America/Halifax",
    String.join ["D95f8jf1ifj-h5qlfB5+s5yBChipYBjpgYChk3YBjo-YC0-YBhu8IC27YBhsuIC3-YBhtyIC21YBhtyIC5jYBhrk",
    "IC73YBhrkIC2vYBhrkIC73YBhrkIC2pYBht+IC1rYBhu8IC35YBhsuIC6tYBhowIC73YBhowIC9hYBhrkIC2pYBh",
    "wyIC2vYBht+ICz1YBhrkIC73YBhowIC73YBht4IC2vYBhp6IC73YBhowIC73YB4+YCn5lYBhnsIC87YBhnsIC87Y",
    "BhnsIC87YBhnsIC87YBjs+IC87YBhnsIC87YBhnsIC87YBhnsIC87YBjs+IC87YBhnsIC87YBhnsIC87YBhnsIC8",
    "7YBlxmIChijYBhikIChijYBhikIChijYBhikIChjtYBhg6IChjtYBhikIChijYBhikIChijYBhikIChijYBhikIC",
    "hijYBhikIChjtYBhikIChijYBhikIChijYBhikIChijYBhikIChijYBhikIChjtYBhg6IChjtYBhikIChijYBhik",
    "IChijYBhikIChijYBhikIChijYBhikIChjtYBhg6IChjtYBhikIChijYBhikIChijYBhikIChijYB+mIChmhYB+m",
    "IChnrYB88IChnrYB88IChnrYB+mIChmhYB+mIChmhYB+mIChnrYB88IChnrYB88IChnrYB+mIChmhYB+mIChmhYB",
    "+mIChmhYB+mIChnrYB88IChnrYB88IChnrYB+mIChmhYB+mIChmhYB+mIChnrYB88IChnrYB88IChnrYB4+IChsz",
    "YB30IChszYB30IChszYB4+IChszYB30IChszYB30IChszYB30IChszYB30IChszYB30IChszYB4+IChszYB30ICh",
    "szYB30IChszYB30IChszYB30IChszYB4+IChszYB30IChszYB30IChszYB30IChszYB30IChszYB30IChszYB4+I",
    "ChszYB30IChszYB30IChszYB30IChszYB30IChszYB4+IChszYB30IChszYB30IChszYB30IChszYB30IChszYB3",
    "0IChszYB4+IChszYB30IChszYB30IChszYB30IChszYB30IChszYB30IChszYB4+IChszYB30IChszYB30IChszY",
    "B30IChszYB30IChszYB4+IChszYB30IChszYB30IChszYB30IChszYB30IChszYB30IChszYB4+IChszYB30IChs",
    "zYB30IChszYB30IChszYB30IChszYB4+IChszYB30IChszYB30IChszYB30IChszYB30IChszYB30IChszYB4+IC",
    "hszYB30IChszYB30IChszYB30IChszYB30IChszYB30IChszYB4+IChszYB30IChszYB30IChszYB30IChszYB30",
    "IChszYB4+IChszYB30IChszYB30IChszYB30IChszYB30IChszYB30IChszYB4+IChszYB30IChszYB30IChszYB",
    "30IChszYB30IChszYB4+IChszYB30IChszYB30IChszYB30IChszYB30IChszYB30IChszYB4+IChszYB30IChsz",
    "YB30IChszYB30IChszYB30IChszYB30IChszYB"]),
  ("America/Havana",
    String.join ["EhmzPhmzfhjkf8jfk2vjr0PBii7us8RClujo9BD27YC49uIDxhYChzmIDyrYChzmIDxhYCl72IDxhYChzmIDxhYC",
    "hokgID21YChtmID3zYChjoID9hYCho2ID7xYChrqIDhijYChikIDhijYChikIDhjtYChikID+lYChmiID+rYChl8",
    "ID+xYChl2IDhijYChikIDhjtYChg6IDhjtYChjuID87YC+mIDhnrYC88IDhnrYChnsID87YChnsID87YChnsID87",
    "YChnsID+lYChmiID+lYC88IDhnrYC88IDhnrYC+mIDhmhYC+mIDhmhYChg6IDhk3YChg6IDhjuAChg6ADhjuAChg",
    "6ADhjuAChg6ADhjuAChg6ADhjuAChikADhikAChikADhjuAC-wADhnsAC88ADho2AC88ADhnsAC88ADhnsAC+mAD",
    "hmiAC+mADhmiAC88ADlxmAC4+ADhrqAC6oADhqgAC4+ADhrqAC6oADhrqAC6oADhs0AC6oADho2AC30ADhs0AC30",
    "ADhs0AC30ADhs0AC4+ADhs0AC30ADhs0AC30ADhs0AC30ADhs0AC30ADhs0AC4+ADhs0AC30ADhs0AC30ADhs0AC",
    "30ADhs0AC30ADhs0AC30ADhs0AC4+ADhs0AC30ADhs0AC30ADhs0AC30ADhs0AC30ADhs0AC4+ADhs0AC30ADhs0",
    "AC30ADhs0AC30ADhs0AC30ADhs0AC30ADhs0AC4+ADhs0AC30ADhs0AC30ADhs0AC30ADhs0AC30ADhs0AC30ADh",
    "s0AC4+ADhs0AC30ADhs0AC30ADhs0AC30ADhs0AC30ADhs0AC4+ADhs0AC30ADhs0AC30ADhs0AC30ADhs0AC30A",
    "Dhs0AC30ADhs0AC4+ADhs0AC30ADhs0AC30ADhs0AC30ADhs0AC30ADhs0AC4+ADhs0AC30ADhs0AC30ADhs0AC3",
    "0ADhs0AC30ADhs0AC30ADhs0AC4+ADhs0AC30ADhs0AC30ADhs0AC30ADhs0AC30ADhs0AC30ADhs0AC4+ADhs0A",
    "C30ADhs0AC30ADhs0AC30ADhs0AC30ADhs0AC4+ADhs0AC30ADhs0AC30ADhs0AC30ADhs0AC30ADhs0AC30ADhs",
    "0AC4+ADhs0AC30ADhs0AC30ADhs0AC30ADhs0AC30ADhs0AC4+ADhs0AC30ADhs0AC30ADhs0AC30ADhs0AC30AD",
    "hs0AC30ADhs0AC4+ADhs0AC30ADhs0AC30ADhs0AC30ADhs0AC30ADhs0AC30ADhs0AC"]),
  ("America/Hermosillo",
    "Dh0gPhxmfhqlfi6pkr4fBr0sACnrjYB-kIC87YBhiqIC1xhYBjzviYChmhYB+mIChmhYB+mIChmhYB"),
  ("America/Indiana/Indianapolis",
    String.join ["EhosLhqlfhjkf8jflh-wg1fBipxnQChnrYB88IChnrYBhurkICyrYB5kICn5lYBhnsIC87YBhnsIC87YBhnsIC87",
    "YBhnsIC87YBho2IC7xYBho2IC87YBhnsIC87YBhnsIC87YBhnsIC87YBhnsIClm1YBhnsIC3xrYDhijYChikIDhi",
    "jYCir66IDhnrYC4+IDhszYC30IDhszYC30IDhszYC4+IDhszYC30IDhszYC30IDhszYC30IDhszYC30IDhszYC30",
    "IDhszYC4+IDhszYC30IDhszYC30IDhszYC30IDhszYC30IDhszYC4+IDhszYC30IDhszYC30IDhszYC30IDhszYC",
    "30IDhszYC30IDhszYC4+IDhszYC30IDhszYC30IDhszYC30IDhszYC30IDhszYC4+IDhszYC30IDhszYC30IDhsz",
    "YC30IDhszYC30IDhszYC30IDhszYC4+IDhszYC30IDhszYC30IDhszYC30IDhszYC30IDhszYC30IDhszYC4+IDh",
    "szYC30IDhszYC30IDhszYC30IDhszYC30IDhszYC4+IDhszYC30IDhszYC30IDhszYC30IDhszYC30IDhszYC30I",
    "DhszYC4+IDhszYC30IDhszYC30IDhszYC30IDhszYC30IDhszYC4+IDhszYC30IDhszYC30IDhszYC30IDhszYC3",
    "0IDhszYC30IDhszYC4+IDhszYC30IDhszYC30IDhszYC30IDhszYC30IDhszYC30IDhszYC4+IDhszYC30IDhszY",
    "C30IDhszYC30IDhszYC30IDhszYC4+IDhszYC30IDhszYC30IDhszYC30IDhszYC30IDhszYC30IDhszYC4+IDhs",
    "zYC30IDhszYC30IDhszYC30IDhszYC30IDhszYC4+IDhszYC30IDhszYC30IDhszYC30IDhszYC30IDhszYC30ID",
    "hszYC4+IDhszYC30IDhszYC30IDhszYC30IDhszYC30IDhszYC30IDhszYC"]),
  ("America/Indiana/Knox",
    String.join ["DhozLhqlfhjkflh-wg1fBipxnQChnrYB88IChnrYBhv20ICn5lYBjr0IC87YBhnsIC87YBhnsIC87YBho2IC7xYB",
    "ho2IC87YBhnsIC87YBhnsIC87YBhnsIC87YBhnsIChjtYBhikIChijYBhikIC87YBhnsIC87YBhnsIChijYBhikI",
    "ChjtYBhikIChijYBhikICjmrYBnwmIChijYBhikIChijYBhikIChijYBhikIChijYBhikIChjtYBhikIChijYBhi",
    "kIChijYBtkICh3jYB2qICht9YBhikIChjtYBhg6IChjtYBhikIChijYBhikIChijYBhikIChijYBhikIChijYBhi",
    "kIChjtYBhg6IChjtYBhikIChijYBhikIChijYBhikIChijYB+mIChmhYB+mIChnrYB88IChnrYB88IChnrYB+mIC",
    "hhp3YB4+IChszYB30IChszYB30IChszYB4+IChszYB30IChszYB30IChszYB30IChszYB30IChszYB30IChszYB4",
    "+IChszYB30IChszYB30IChszYB30IChszYB30IChszYB4+IChszYB30IChszYB30IChszYB30IChszYB30IChszY",
    "B30IChszYB4+IChszYB30IChszYB30IChszYB30IChszYB30IChszYB4+IChszYB30IChszYB30IChszYB30IChs",
    "zYB30IChszYB30IChszYB4+IChszYB30IChszYB30IChszYB30IChszYB30IChszYB30IChszYB4+IChszYB30IC",
    "hszYB30IChszYB30IChszYB30IChszYB4+IChszYB30IChszYB30IChszYB30IChszYB30IChszYB30IChszYB4+",
    "IChszYB30IChszYB30IChszYB30IChszYB30IChszYB4+IChszYB30IChszYB30IChszYB30IChszYB30IChszYB",
    "30IChszYB4+IChszYB30IChszYB30IChszYB30IChszYB30IChszYB30IChszYB4+IChszYB30IChszYB30IChsz",
    "YB30IChszYB30IChszYB4+IChszYB30IChszYB30IChszYB30IChszYB30IChszYB30IChszYB4+IChszYB30ICh",
    "szYB30IChszYB30IChszYB30IChszYB4+IChszYB30IChszYB30IChszYB30IChszYB30IChszYB30IChszYB4+I",
    "ChszYB30IChszYB30IChszYB30IChszYB30IChszYB30IChszYB"]),
  ("America/Indiana/Marengo",
    String.join ["EhovFhqlfhjkf8jflh-wg1fBipxnQChnrYB88IChnrYBhv20ICn5lYBr9+IC87YBlv8IC87YBhnsIC87YBho2IC8",
    "7YBhnsIC87YBhnsIC87YBhnsIC87YBhnsIC87YBho2ICxjpYDhijYChikIDhijYChikIDhjtYChikIDhijYChikI",
    "DhijYCi6yIDht9YCihkoIDhnrYC4+IDhszYC30IDhszYC30IDhszYC4+IDhszYC30IDhszYC30IDhszYC30IDhsz",
    "YC30IDhszYC30IDhszYC4+IDhszYC30IDhszYC30IDhszYC30IDhszYC30IDhszYC4+IDhszYC30IDhszYC30IDh",
    "szYC30IDhszYC30IDhszYC30IDhszYC4+IDhszYC30IDhszYC30IDhszYC30IDhszYC30IDhszYC4+IDhszYC30I",
    "DhszYC30IDhszYC30IDhszYC30IDhszYC30IDhszYC4+IDhszYC30IDhszYC30IDhszYC30IDhszYC30IDhszYC3",
    "0IDhszYC4+IDhszYC30IDhszYC30IDhszYC30IDhszYC30IDhszYC4+IDhszYC30IDhszYC30IDhszYC30IDhszY",
    "C30IDhszYC30IDhszYC4+IDhszYC30IDhszYC30IDhszYC30IDhszYC30IDhszYC4+IDhszYC30IDhszYC30IDhs",
    "zYC30IDhszYC30IDhszYC30IDhszYC4+IDhszYC30IDhszYC30IDhszYC30IDhszYC30IDhszYC30IDhszYC4+ID",
    "hszYC30IDhszYC30IDhszYC30IDhszYC30IDhszYC4+IDhszYC30IDhszYC30IDhszYC30IDhszYC30IDhszYC30",
    "IDhszYC4+IDhszYC30IDhszYC30IDhszYC30IDhszYC30IDhszYC4+IDhszYC30IDhszYC30IDhszYC30IDhszYC",
    "30IDhszYC30IDhszYC4+IDhszYC30IDhszYC30IDhszYC30IDhszYC30IDhszYC30IDhszYC"]),
  ("America/Indiana/Petersburg",
    String.join ["Eho9Fhqlfhjkf8jflh-wg1fBipxnQChnrYB88IChnrYBhv20ICn5lYB0wnYC7yIBho2IC87YBhnsIC87YBhnsIC8",
    "7YBhnsIC87YBhnsIC87YBho2IChijYBhikIChijYBhikIChijYBhikIChijYBhikICjn1YBhikIChijYBhikIChi",
    "jYBhikIChijYBhikIChijYBhikIChjtYBhikIChijYBhikIChijYBtkICh3jYB2qICht9YBhikIChjtYBhg6ICh-",
    "lnYB4+ICiknYDhszYC30IDhszYC4+IDhszYC30IDhszYC30IDhszYC30IDhszYC30IDhszYC30IDhszYC4+IDhsz",
    "YC30IDhszYC30IDhszYC30IDhszYC30IDhszYC4+IDhszYC30IDhszYC30IDhszYC30IDhszYC30IDhszYC30IDh",
    "szYC4+IDhszYC30IDhszYC30IDhszYC30IDhszYC30IDhszYC4+IDhszYC30IDhszYC30IDhszYC30IDhszYC30I",
    "DhszYC30IDhszYC4+IDhszYC30IDhszYC30IDhszYC30IDhszYC30IDhszYC30IDhszYC4+IDhszYC30IDhszYC3",
    "0IDhszYC30IDhszYC30IDhszYC4+IDhszYC30IDhszYC30IDhszYC30IDhszYC30IDhszYC30IDhszYC4+IDhszY",
    "C30IDhszYC30IDhszYC30IDhszYC30IDhszYC4+IDhszYC30IDhszYC30IDhszYC30IDhszYC30IDhszYC30IDhs",
    "zYC4+IDhszYC30IDhszYC30IDhszYC30IDhszYC30IDhszYC30IDhszYC4+IDhszYC30IDhszYC30IDhszYC30ID",
    "hszYC30IDhszYC4+IDhszYC30IDhszYC30IDhszYC30IDhszYC30IDhszYC30IDhszYC4+IDhszYC30IDhszYC30",
    "IDhszYC30IDhszYC30IDhszYC4+IDhszYC30IDhszYC30IDhszYC30IDhszYC30IDhszYC30IDhszYC4+IDhszYC",
    "30IDhszYC30IDhszYC30IDhszYC30IDhszYC30IDhszYC"]),
  ("America/Indiana/Tell_City",
    String.join ["Eho1Nhqlfhjkf8jflh-wg1fBipxnQChnrYB88IChnrYBhv20ICn5lYB0wnYC7yIBho2IC87YBhnsIC87YBhnsIC8",
    "7YBhnsIC87YBhnsIC87YBho2IChijYBhikIChijYBhikIChijYBhikICnwlYBhikIChijYBhikIDhijQChikIDhi",
    "jYCitimIB4+IChszYB30IChszYB30IChszYB4+IChszYB30IChszYB30IChszYB30IChszYB30IChszYB30IChsz",
    "YB4+IChszYB30IChszYB30IChszYB30IChszYB30IChszYB4+IChszYB30IChszYB30IChszYB30IChszYB30ICh",
    "szYB30IChszYB4+IChszYB30IChszYB30IChszYB30IChszYB30IChszYB4+IChszYB30IChszYB30IChszYB30I",
    "ChszYB30IChszYB30IChszYB4+IChszYB30IChszYB30IChszYB30IChszYB30IChszYB30IChszYB4+IChszYB3",
    "0IChszYB30IChszYB30IChszYB30IChszYB4+IChszYB30IChszYB30IChszYB30IChszYB30IChszYB30IChszY",
    "B4+IChszYB30IChszYB30IChszYB30IChszYB30IChszYB4+IChszYB30IChszYB30IChszYB30IChszYB30IChs",
    "zYB30IChszYB4+IChszYB30IChszYB30IChszYB30IChszYB30IChszYB30IChszYB4+IChszYB30IChszYB30IC",
    "hszYB30IChszYB30IChszYB4+IChszYB30IChszYB30IChszYB30IChszYB30IChszYB30IChszYB4+IChszYB30",
    "IChszYB30IChszYB30IChszYB30IChszYB4+IChszYB30IChszYB30IChszYB30IChszYB30IChszYB30IChszYB",
    "4+IChszYB30IChszYB30IChszYB30IChszYB30IChszYB30IChszYB"]),
  ("America/Indiana/Vevay",
    String.join ["Ehn7fhqlfhjkf8jflh-wg1fBipxnQChnrYB88IChnrYBhv20ICn5lYByq2IChgj1YDhijYChikIDhijYChikIDhj",
    "tYChikIDhijYCinxgIDhnrYC4+IDhszYC30IDhszYC30IDhszYC4+IDhszYC30IDhszYC30IDhszYC30IDhszYC3",
    "0IDhszYC30IDhszYC4+IDhszYC30IDhszYC30IDhszYC30IDhszYC30IDhszYC4+IDhszYC30IDhszYC30IDhszY",
    "C30IDhszYC30IDhszYC30IDhszYC4+IDhszYC30IDhszYC30IDhszYC30IDhszYC30IDhszYC4+IDhszYC30IDhs",
    "zYC30IDhszYC30IDhszYC30IDhszYC30IDhszYC4+IDhszYC30IDhszYC30IDhszYC30IDhszYC30IDhszYC30ID",
    "hszYC4+IDhszYC30IDhszYC30IDhszYC30IDhszYC30IDhszYC4+IDhszYC30IDhszYC30IDhszYC30IDhszYC30",
    "IDhszYC30IDhszYC4+IDhszYC30IDhszYC30IDhszYC30IDhszYC30IDhszYC4+IDhszYC30IDhszYC30IDhszYC",
    "30IDhszYC30IDhszYC30IDhszYC4+IDhszYC30IDhszYC30IDhszYC30IDhszYC30IDhszYC30IDhszYC4+IDhsz",
    "YC30IDhszYC30IDhszYC30IDhszYC30IDhszYC4+IDhszYC30IDhszYC30IDhszYC30IDhszYC30IDhszYC30IDh",
    "szYC4+IDhszYC30IDhszYC30IDhszYC30IDhszYC30IDhszYC4+IDhszYC30IDhszYC30IDhszYC30IDhszYC30I",
    "DhszYC30IDhszYC4+IDhszYC30IDhszYC30IDhszYC30IDhszYC30IDhszYC30IDhszYC"]),
  ("America/Indiana/Vincennes",
    String.join ["Ehpgdhqlfhjkf8jflh-wg1fBipxnQChnrYB88IChnrYBhv20ICn5lYBhnsIC87YBuimIC87YBhnsIC87YBho1YC7",
    "yIBho2IC87YBhnsIC87YBhnsIC87YBhnsIC87YBhnsIChjtYBhikIC7xYBho2IChijYBhikIChijYBhikICq2xYD",
    "hijYChikIDhijYCitimIB4+ICiknYDhszYC30IDhszYC4+IDhszYC30IDhszYC30IDhszYC30IDhszYC30IDhszY",
    "C30IDhszYC4+IDhszYC30IDhszYC30IDhszYC30IDhszYC30IDhszYC4+IDhszYC30IDhszYC30IDhszYC30IDhs",
    "zYC30IDhszYC30IDhszYC4+IDhszYC30IDhszYC30IDhszYC30IDhszYC30IDhszYC4+IDhszYC30IDhszYC30ID",
    "hszYC30IDhszYC30IDhszYC30IDhszYC4+IDhszYC30IDhszYC30IDhszYC30IDhszYC30IDhszYC30IDhszYC4+",
    "IDhszYC30IDhszYC30IDhszYC30IDhszYC30IDhszYC4+IDhszYC30IDhszYC30IDhszYC30IDhszYC30IDhszYC",
    "30IDhszYC4+IDhszYC30IDhszYC30IDhszYC30IDhszYC30IDhszYC4+IDhszYC30IDhszYC30IDhszYC30IDhsz",
    "YC30IDhszYC30IDhszYC4+IDhszYC30IDhszYC30IDhszYC30IDhszYC30IDhszYC30IDhszYC4+IDhszYC30IDh",
    "szYC30IDhszYC30IDhszYC30IDhszYC4+IDhszYC30IDhszYC30IDhszYC30IDhszYC30IDhszYC30IDhszYC4+I",
    "DhszYC30IDhszYC30IDhszYC30IDhszYC30IDhszYC4+IDhszYC30IDhszYC30IDhszYC30IDhszYC30IDhszYC3",
    "0IDhszYC4+IDhszYC30IDhszYC30IDhszYC30IDhszYC30IDhszYC30IDhszYC"]),
  ("America/Indiana/Winamac",
    String.join ["EhozBhqlfhjkf8jflh-wg1fBipxnQChnrYB88IChnrYBhv20ICn5lYBhnsIC87YBhnsIC87YBhnsIC87YBhnsIC8",
    "7YBho2IC7xYBho2IC87YBhnsIC87YBhnsIC87YBhnsIC87YBhnsIChjtYBhikIChijYBhikIC87YBhnsIC87YBhn",
    "sIC87YBhnsIC87YBho2ICxjpYDhijYChikIDhijYCitimIB4+IDhszQC30IDhszYC30IDhszYC4+IDhszYC30IDh",
    "szYC30IDhszYC30IDhszYC30IDhszYC30IDhszYC4+IDhszYC30IDhszYC30IDhszYC30IDhszYC30IDhszYC4+I",
    "DhszYC30IDhszYC30IDhszYC30IDhszYC30IDhszYC30IDhszYC4+IDhszYC30IDhszYC30IDhszYC30IDhszYC3",
    "0IDhszYC4+IDhszYC30IDhszYC30IDhszYC30IDhszYC30IDhszYC30IDhszYC4+IDhszYC30IDhszYC30IDhszY",
    "C30IDhszYC30IDhszYC30IDhszYC4+IDhszYC30IDhszYC30IDhszYC30IDhszYC30IDhszYC4+IDhszYC30IDhs",
    "zYC30IDhszYC30IDhszYC30IDhszYC30IDhszYC4+IDhszYC30IDhszYC30IDhszYC30IDhszYC30IDhszYC4+ID",
    "hszYC30IDhszYC30IDhszYC30IDhszYC30IDhszYC30IDhszYC4+IDhszYC30IDhszYC30IDhszYC30IDhszYC30",
    "IDhszYC30IDhszYC4+IDhszYC30IDhszYC30IDhszYC30IDhszYC30IDhszYC4+IDhszYC30IDhszYC30IDhszYC",
    "30IDhszYC30IDhszYC30IDhszYC4+IDhszYC30IDhszYC30IDhszYC30IDhszYC30IDhszYC4+IDhszYC30IDhsz",
    "YC30IDhszYC30IDhszYC30IDhszYC30IDhszYC4+IDhszYC30IDhszYC30IDhszYC30IDhszYC30IDhszYC30IDh",
    "szYC"]),
  ("America/Inuvik",
    String.join ["EAh4nfhxmfhqlf--m43fBhpr0QChijYBhikIChijYBhikIChijYBhikIChijYBhikIChjtYBhg6IChjtYBhikICh",
    "ijYBhikIDhijQChikIDhijYChikIDhijYChikIDhjtYChg6IDhjtYChikIDhijYChikIDhijYChikIDhijYC+mID",
    "hmhYC+mIDhnrYC88IDhnrYC88IDhnrYC+mIDhmhYC+mIDhmhYC+mIDhnrYC88IDhnrYC88IDhnrYC+mIDhmhYC+m",
    "IDhmhYC+mIDhmhYC+mIDhnrYC88IDhnrYC88IDhnrYC+mIDhmhYC+mIDhmhYC+mIDhnrYC88IDhnrYC88IDhnrYC",
    "4+IDhszYC30IDhszYC30IDhszYC4+IDhszYC30IDhszYC30IDhszYC30IDhszYC30IDhszYC30IDhszYC4+IDhsz",
    "YC30IDhszYC30IDhszYC30IDhszYC30IDhszYC4+IDhszYC30IDhszYC30IDhszYC30IDhszYC30IDhszYC30IDh",
    "szYC4+IDhszYC30IDhszYC30IDhszYC30IDhszYC30IDhszYC4+IDhszYC30IDhszYC30IDhszYC30IDhszYC30I",
    "DhszYC30IDhszYC4+IDhszYC30IDhszYC30IDhszYC30IDhszYC30IDhszYC30IDhszYC4+IDhszYC30IDhszYC3",
    "0IDhszYC30IDhszYC30IDhszYC4+IDhszYC30IDhszYC30IDhszYC30IDhszYC30IDhszYC30IDhszYC4+IDhszY",
    "C30IDhszYC30IDhszYC30IDhszYC30IDhszYC4+IDhszYC30IDhszYC30IDhszYC30IDhszYC30IDhszYC30IDhs",
    "zYC4+IDhszYC30IDhszYC30IDhszYC30IDhszYC30IDhszYC30IDhszYC4+IDhszYC30IDhszYC30IDhszYC30ID",
    "hszYC30IDhszYC4+IDhszYC30IDhszYC30IDhszYC30IDhszYC30IDhszYC30IDhszYC4+IDhszYC30IDhszYC30",
    "IDhszYC30IDhszYC30IDhszYC4+IDhszYC30IDhszYC30IDhszYC30IDhszYC30IDhszYC30IDhszYC4+IDhszYC",
    "30IDhszYC30IDhszYC30IDhszYC30IDhszYC30IDhszYC"]),
  ("America/Iqaluit",
    String.join ["EA8jfhjkfhqlfhzytvnfBm45QCh48uIBhijYChikIBhijYChikIBhijYChikIBhijYChikIBhjtYChg6IBhjtYCh",
    "ikIBhijYChikIBhijYChikIBhijYChikIBhijYChikIBhjtYChg6IBhjtYChikIBhijYChikIBhijYChikIBhijY",
    "C+mIBhmhYC+mIBhnrYC88IBhnrYC88IBhnrYC+mIBhmhYC+mIBhmhYC+mIBhnrYC88IBhnrYC88IBhnrYC+mIBhm",
    "hYC+mIBhmhYC+mIBhmhYC+mIBhnrYD88QCiknYBhnrYC+mIBhmhYC+mIBhmhYC+mIBhnrYC88IBhnrYC88IBhnrY",
    "C4+IBhszYC30IBhszYC30IBhszYC4+IBhszYC30IBhszYC30IBhszYC30IBhszYC30IBhszYC30IBhszYC4+IBhs",
    "zYC30IBhszYC30IBhszYC30IBhszYC30IBhszYC4+IBhszYC30IBhszYC30IBhszYC30IBhszYC30IBhszYC30IB",
    "hszYC4+IBhszYC30IBhszYC30IBhszYC30IBhszYC30IBhszYC4+IBhszYC30IBhszYC30IBhszYC30IBhszYC30",
    "IBhszYC30IBhszYC4+IBhszYC30IBhszYC30IBhszYC30IBhszYC30IBhszYC30IBhszYC4+IBhszYC30IBhszYC",
    "30IBhszYC30IBhszYC30IBhszYC4+IBhszYC30IBhszYC30IBhszYC30IBhszYC30IBhszYC30IBhszYC4+IBhsz",
    "YC30IBhszYC30IBhszYC30IBhszYC30IBhszYC4+IBhszYC30IBhszYC30IBhszYC30IBhszYC30IBhszYC30IBh",
    "szYC4+IBhszYC30IBhszYC30IBhszYC30IBhszYC30IBhszYC30IBhszYC4+IBhszYC30IBhszYC30IBhszYC30I",
    "BhszYC30IBhszYC4+IBhszYC30IBhszYC30IBhszYC30IBhszYC30IBhszYC30IBhszYC4+IBhszYC30IBhszYC3",
    "0IBhszYC30IBhszYC30IBhszYC4+IBhszYC30IBhszYC30IBhszYC30IBhszYC30IBhszYC30IBhszYC4+IBhszY",
    "C30IBhszYC30IBhszYC30IBhszYC30IBhszYC30IBhszYC"]),
  ("America/Jamaica",
    String.join ["Dhj-bhjkf8jfjs+hlwDBj0v1ynFCh3jYB2qICht9YBhikIChjtYBhg6IChjtYBhikIChijYBhikIChijYBhikICh",
    "ijYBhikIChijYBhikIChjtYBhg6IChjtYB"]),
  ("America/Juneau",
    String.join ["Fjp3Wh-gJh4nfhxmfh-ofmgn0hidBh94w6vJCiugnz9XDn5lYChyusIDhijYChikIDhijYChikIDhjtYChikIDhi",
    "jYChikIDhijYCtkIDh3jYC2qIDht9YChikIDhjtYChg6IDhjtYChikIDhijYChikIDhijYCjmsIDhijYChikIDhj",
    "tYChg6IDhjtYEhikQChijYEhikIChijYEhikIChijYE+mIChmhYE+mIChnrYE88IChnrYE88IChnrYE+mIChmhYE",
    "+mIChmhYE+mIChnrYE88IChnrYE88IChnrYE+mIChmhYE+mIChmhYE+mIChmhYE+mIChnrYE88IChnrYE88IChnr",
    "YE+mIChmhYE+mIChmhYE+mIChnrYE88IChnrYE88IChnrYE4+IChszYE30IChszYE30IChszYE4+IChszYE30ICh",
    "szYE30IChszYE30IChszYE30IChszYE30IChszYE4+IChszYE30IChszYE30IChszYE30IChszYE30IChszYE4+I",
    "ChszYE30IChszYE30IChszYE30IChszYE30IChszYE30IChszYE4+IChszYE30IChszYE30IChszYE30IChszYE3",
    "0IChszYE4+IChszYE30IChszYE30IChszYE30IChszYE30IChszYE30IChszYE4+IChszYE30IChszYE30IChszY",
    "E30IChszYE30IChszYE30IChszYE4+IChszYE30IChszYE30IChszYE30IChszYE30IChszYE4+IChszYE30IChs",
    "zYE30IChszYE30IChszYE30IChszYE30IChszYE4+IChszYE30IChszYE30IChszYE30IChszYE30IChszYE4+IC",
    "hszYE30IChszYE30IChszYE30IChszYE30IChszYE30IChszYE4+IChszYE30IChszYE30IChszYE30IChszYE30",
    "IChszYE30IChszYE4+IChszYE30IChszYE30IChszYE30IChszYE30IChszYE4+IChszYE30IChszYE30IChszYE",
    "30IChszYE30IChszYE30IChszYE4+IChszYE30IChszYE30IChszYE30IChszYE30IChszYE4+IChszYE30IChsz",
    "YE30IChszYE30IChszYE30IChszYE30IChszYE4+IChszYE30IChszYE30IChszYE30IChszYE30IChszYE30ICh",
    "szYE"]),
  ("America/Kentucky/Louisville",
    String.join ["EhomLhqlfhjkf8jflh-wg1fBipxnQChnrYB88IChnrYBjn2IC3hYBhqh8IC87YB5kICn5lYBhizmyZCl45lJBor4",
    "IC7xYBho2IC87YBhnsIC87YBhnsIC87YBhnsIC87YBhnsIC87YBho2IChijYBhikIChijYBhikIChijYBhikIChi",
    "jYBhikIChjtYBhikICu-hYDhijYChikIDhijYChikIDhijYChikIDhjtYChikIDhijYChikIDhijYCi6yIDht9YC",
    "hikIDhjtYChg6IDhjtYChikIDhijYChikIDhijYChikIDhijYChikIDhijYChikIDhjtYChg6IDhjtYChikIDhij",
    "YChikIDhijYChikIDhijYC+mIDhmhYC+mIDhnrYC88IDhnrYC88IDhnrYC+mIDhmhYC+mIDhmhYC+mIDhnrYC88I",
    "DhnrYC88IDhnrYC+mIDhmhYC+mIDhmhYC+mIDhmhYC+mIDhnrYC88IDhnrYC88IDhnrYC+mIDhmhYC+mIDhmhYC+",
    "mIDhnrYC88IDhnrYC88IDhnrYC4+IDhszYC30IDhszYC30IDhszYC4+IDhszYC30IDhszYC30IDhszYC30IDhszY",
    "C30IDhszYC30IDhszYC4+IDhszYC30IDhszYC30IDhszYC30IDhszYC30IDhszYC4+IDhszYC30IDhszYC30IDhs",
    "zYC30IDhszYC30IDhszYC30IDhszYC4+IDhszYC30IDhszYC30IDhszYC30IDhszYC30IDhszYC4+IDhszYC30ID",
    "hszYC30IDhszYC30IDhszYC30IDhszYC30IDhszYC4+IDhszYC30IDhszYC30IDhszYC30IDhszYC30IDhszYC30",
    "IDhszYC4+IDhszYC30IDhszYC30IDhszYC30IDhszYC30IDhszYC4+IDhszYC30IDhszYC30IDhszYC30IDhszYC",
    "30IDhszYC30IDhszYC4+IDhszYC30IDhszYC30IDhszYC30IDhszYC30IDhszYC4+IDhszYC30IDhszYC30IDhsz",
    "YC30IDhszYC30IDhszYC30IDhszYC4+IDhszYC30IDhszYC30IDhszYC30IDhszYC30IDhszYC30IDhszYC4+IDh",
    "szYC30IDhszYC30IDhszYC30IDhszYC30IDhszYC4+IDhszYC30IDhszYC30IDhszYC30IDhszYC30IDhszYC30I",
    "DhszYC4+IDhszYC30IDhszYC30IDhszYC30IDhszYC30IDhszYC4+IDhszYC30IDhszYC30IDhszYC30IDhszYC3",
    "0IDhszYC30IDhszYC4+IDhszYC30IDhszYC30IDhszYC30IDhszYC30IDhszYC30IDhszYC"]),
  ("America/Kentucky/Monticello",
    String.join ["Ehn4Xhqlfhjkf8jflh-wg1fBipxnQChnrYB88IChnrYBhv20ICn5lYBhwqkIChijYBhikIChijYBhikIChijYBhi",
    "kIChjtYBhikIChijYBhikIChijYBtkICh3jYB2qICht9YBhikIChjtYBhg6IChjtYBhikIChijYBhikIChijYBhi",
    "kIChijYBhikIChijYBhikIChjtYBhg6IChjtYBhikIChijYBhikIChijYBhikIChijYB+mIChmhYB+mIChnrYB88",
    "IChnrYB88IChnrYB+mIChmhYB+mIChmhYB+mIChnrYB88IChnrYB88IChnrYB+mIChmhYB+mIChmhYB+mIChmhYB",
    "+mIChnrYB88ICiknYDhnrYC+mIDhmhYC+mIDhmhYC+mIDhnrYC88IDhnrYC88IDhnrYC4+IDhszYC30IDhszYC30",
    "IDhszYC4+IDhszYC30IDhszYC30IDhszYC30IDhszYC30IDhszYC30IDhszYC4+IDhszYC30IDhszYC30IDhszYC",
    "30IDhszYC30IDhszYC4+IDhszYC30IDhszYC30IDhszYC30IDhszYC30IDhszYC30IDhszYC4+IDhszYC30IDhsz",
    "YC30IDhszYC30IDhszYC30IDhszYC4+IDhszYC30IDhszYC30IDhszYC30IDhszYC30IDhszYC30IDhszYC4+IDh",
    "szYC30IDhszYC30IDhszYC30IDhszYC30IDhszYC30IDhszYC4+IDhszYC30IDhszYC30IDhszYC30IDhszYC30I",
    "DhszYC4+IDhszYC30IDhszYC30IDhszYC30IDhszYC30IDhszYC30IDhszYC4+IDhszYC30IDhszYC30IDhszYC3",
    "0IDhszYC30IDhszYC4+IDhszYC30IDhszYC30IDhszYC30IDhszYC30IDhszYC30IDhszYC4+IDhszYC30IDhszY",
    "C30IDhszYC30IDhszYC30IDhszYC30IDhszYC4+IDhszYC30IDhszYC30IDhszYC30IDhszYC30IDhszYC4+IDhs",
    "zYC30IDhszYC30IDhszYC30IDhszYC30IDhszYC30IDhszYC4+IDhszYC30IDhszYC30IDhszYC30IDhszYC30ID",
    "hszYC4+IDhszYC30IDhszYC30IDhszYC30IDhszYC30IDhszYC30IDhszYC4+IDhszYC30IDhszYC30IDhszYC30",
    "IDhszYC30IDhszYC30IDhszYC"]),
  ("America/La_Paz",
    "D-+H49H8jfin8l0xXB9zYC"),
  ("America/Lima",
    String.join ["EhkjXhklHhjkf8jfk2vjukHBhi90uxRCh3rsk3ZDw7YChhmIDhijYChikIDhijYCjh+6IDw7YChzyIDw7YCl80ID",
    "w7YCohiIDw7YC"]),
  ("America/Los_Angeles",
    String.join ["Dh3tTh4nfhxmflh-vyzfBipxnQChnrYB88IChnrYBhv20ICn5lYBkz1nkZChwo8zJBi64AC7yABho2AC88ABhnsA",
    "C88ABhnsAC88ABhnsAC88ABhnsAC88ABho2AC88ABhnsAC88ABhnsAC88ABhnsAC88ABhnsAC88ABho2AC7yABho",
    "2AChikABhikAChikABhikAChikABhikAChjuABhg6AChjuABhikIChijYBhikIChijYBhikIChijYBhikIChijYB",
    "hikIChjtYBhikIChijYBhikIChijYBtkICh3jYB2qICht9YBhikIChjtYBhg6IChjtYBhikIChijYBhikIChijYB",
    "hikIChijYBhikIChijYBhikIChjtYBhg6IChjtYBhikIChijYBhikIChijYBhikIChijYB+mIChmhYB+mIChnrYB",
    "88IChnrYB88IChnrYB+mIChmhYB+mIChmhYB+mIChnrYB88IChnrYB88IChnrYB+mIChmhYB+mIChmhYB+mIChmh",
    "YB+mIChnrYB88IChnrYB88IChnrYB+mIChmhYB+mIChmhYB+mIChnrYB88IChnrYB88IChnrYB4+IChszYB30ICh",
    "szYB30IChszYB4+IChszYB30IChszYB30IChszYB30IChszYB30IChszYB30IChszYB4+IChszYB30IChszYB30I",
    "ChszYB30IChszYB30IChszYB4+IChszYB30IChszYB30IChszYB30IChszYB30IChszYB30IChszYB4+IChszYB3",
    "0IChszYB30IChszYB30IChszYB30IChszYB4+IChszYB30IChszYB30IChszYB30IChszYB30IChszYB30IChszY",
    "B4+IChszYB30IChszYB30IChszYB30IChszYB30IChszYB30IChszYB4+IChszYB30IChszYB30IChszYB30IChs",
    "zYB30IChszYB4+IChszYB30IChszYB30IChszYB30IChszYB30IChszYB30IChszYB4+IChszYB30IChszYB30IC",
    "hszYB30IChszYB30IChszYB4+IChszYB30IChszYB30IChszYB30IChszYB30IChszYB30IChszYB4+IChszYB30",
    "IChszYB30IChszYB30IChszYB30IChszYB30IChszYB4+IChszYB30IChszYB30IChszYB30IChszYB30IChszYB",
    "4+IChszYB30IChszYB30IChszYB30IChszYB30IChszYB30IChszYB4+IChszYB30IChszYB30IChszYB30IChsz",
    "YB30IChszYB4+IChszYB30IChszYB30IChszYB30IChszYB30IChszYB30IChszYB4+IChszYB30IChszYB30ICh",
    "szYB30IChszYB30IChszYB30IChszYB"]),
  ("America/Maceio",
    String.join ["Dw3X1ifuhfjpq2r4HBhhszw2JChh7ABhi2IChh3YBhj1wIC5wABhq+AC21YBht4IC27YBht4ICw7YB3h6ICvxYBh",
    "-gICrhYBht+ICw7YBht+IC2vYBht+IC21YBhl6qIC49YBhqgIC0-YBhvuICz1YBhvoICz1YBhwyIC2pYBskwIC2p",
    "YBn5sIC7xYBhqgICizYBii+IC3zYB"]),
  ("America/Managua",
    String.join ["EhouHhouPhqlfhjkfk2vjp5XBiz04uoJCipi413RDj6-YCo3yIDyxYChx2IDyxYC41nIDhygYCyyIDox9YCx2uID",
    "hg5YChnsYD87QC"]),
  ("America/Manaus",
    String.join ["D8kH8jf1ifjpq2grXBhhszsqZChh7ABhi2IChh3YBhj1wIC5wABhq+AC21YBht4IC27YBht4ICw7YB3h6ICvxYBh",
    "-gICrhYBht+ICw7YBht+IC2vYBht+IC21YBhl6qIC49YBhqgIC0-YBhvuICz1YBsl6IC3zYB"]),
  ("America/Martinique",
    "D80H8jf1ifjurw77XBkh1my-ZChg5YB"),
  ("America/Matamoros",
    String.join ["Dht2Phqlfhjkfi6pky5fBkt5qQChnrYBv9oIChmhYB+mIChmhYB+mIChmhYB+mIChnrYB88IChnrYBhjuIC7xYBh",
    "juIChmhYB+mIChmhYB+mIChnrYB88IChnrYB88IChnrYB88IChnrYB+mIChmhYB+mIChmhYB6oIChszYB30IChsz",
    "YB30IChszYB30IChszYB30IChszYB30IChszYB4+IChszYB30IChszYB30IChszYB30IChszYB30IChszYB4+ICh",
    "szYB30IChszYB30IChszYB30IChszYB30IChszYB30IChszYB4+IChszYB30IChszYB30IChszYB30IChszYB30I",
    "ChszYB4+IChszYB30IChszYB30IChszYB30IChszYB30IChszYB30IChszYB4+IChszYB30IChszYB30IChszYB3",
    "0IChszYB30IChszYB30IChszYB4+IChszYB30IChszYB30IChszYB30IChszYB30IChszYB4+IChszYB30IChszY",
    "B30IChszYB30IChszYB30IChszYB30IChszYB4+IChszYB30IChszYB30IChszYB30IChszYB30IChszYB4+IChs",
    "zYB30IChszYB30IChszYB30IChszYB30IChszYB30IChszYB4+IChszYB30IChszYB30IChszYB30IChszYB30IC",
    "hszYB30IChszYB4+IChszYB30IChszYB30IChszYB30IChszYB30IChszYB4+IChszYB30IChszYB30IChszYB30",
    "IChszYB30IChszYB30IChszYB4+IChszYB30IChszYB30IChszYB30IChszYB30IChszYB4+IChszYB30IChszYB",
    "30IChszYB30IChszYB30IChszYB30IChszYB4+IChszYB30IChszYB30IChszYB30IChszYB30IChszYB30IChsz",
    "YB"]),
  ("America/Mazatlan",
    String.join ["Dhx8Hhxmfhqlfi6pkr4fBr0sACnrjYB-kIC87YBhiqIC1xhYBjzviYChmhYB+mIChmhYB+mIChmhYB+mIChnrYB8",
    "8IChnrYBhjuIC7xYBhjuIChmhYB+mIChmhYB+mIChnrYB88IChnrYB88IChnrYB88IChnrYB+mIChmhYB+mIChmh",
    "YB+mIChnrYB88IChnrYB88IChnrYB+mIChmhYB+mIChmhYB+mIChmhYB+mIChnrYB88IChnrYB88IChnrYB+mICh",
    "mhYB+mIChmhYB+mIChnrYB88IChnrYB"]),
  ("America/Menominee",
    String.join ["DhpiFhqlfhjkfk+xi7pZBh9l7xxbChnrYB88IChnrYBhv20ICn5lYBhnsIC87YBhp8iIChjtYBlq0ICp0tYBtkIC",
    "h3jYB2qICht9YBhikIChjtYBhg6IChjtYBhikIChijYBhikIChijYBhikIChijYBhikIChijYBhikIChjtYBhg6I",
    "ChjtYBhikIChijYBhikIChijYBhikIChijYB+mIChmhYB+mIChnrYB88IChnrYB88IChnrYB+mIChmhYB+mIChmh",
    "YB+mIChnrYB88IChnrYB88IChnrYB+mIChmhYB+mIChmhYB+mIChmhYB+mIChnrYB88IChnrYB88IChnrYB+mICh",
    "mhYB+mIChmhYB+mIChnrYB88IChnrYB88IChnrYB4+IChszYB30IChszYB30IChszYB4+IChszYB30IChszYB30I",
    "ChszYB30IChszYB30IChszYB30IChszYB4+IChszYB30IChszYB30IChszYB30IChszYB30IChszYB4+IChszYB3",
    "0IChszYB30IChszYB30IChszYB30IChszYB30IChszYB4+IChszYB30IChszYB30IChszYB30IChszYB30IChszY",
    "B4+IChszYB30IChszYB30IChszYB30IChszYB30IChszYB30IChszYB4+IChszYB30IChszYB30IChszYB30IChs",
    "zYB30IChszYB30IChszYB4+IChszYB30IChszYB30IChszYB30IChszYB30IChszYB4+IChszYB30IChszYB30IC",
    "hszYB30IChszYB30IChszYB30IChszYB4+IChszYB30IChszYB30IChszYB30IChszYB30IChszYB4+IChszYB30",
    "IChszYB30IChszYB30IChszYB30IChszYB30IChszYB4+IChszYB30IChszYB30IChszYB30IChszYB30IChszYB",
    "30IChszYB4+IChszYB30IChszYB30IChszYB30IChszYB30IChszYB4+IChszYB30IChszYB30IChszYB30IChsz",
    "YB30IChszYB30IChszYB4+IChszYB30IChszYB30IChszYB30IChszYB30IChszYB4+IChszYB30IChszYB30ICh",
    "szYB30IChszYB30IChszYB30IChszYB4+IChszYB30IChszYB30IChszYB30IChszYB30IChszYB30IChszYB"]),
  ("America/Merida",
    String.join ["DhqgHhqlfhjkfi6pky5fBkgr+QCh6pYB832IChmhYB+mIChmhYB+mIChmhYB+mIChnrYB88IChnrYBhjuIC7xYBh",
    "juIChmhYB+mIChmhYB+mIChnrYB88IChnrYB88IChnrYB88IChnrYB+mIChmhYB+mIChmhYB+mIChnrYB88IChnr",
    "YB88IChnrYB+mIChmhYB+mIChmhYB+mIChmhYB+mIChnrYB88IChnrYB88IChnrYB+mIChmhYB+mIChmhYB+mICh",
    "nrYB88IChnrYB"]),
  ("America/Metlakatla",
    String.join ["FjriMh91Th4nfhxmfh-ofmgn0hidBh94w5kTCiugn1oNDn5lYChyusIDhijYChikIDhijYChikIDhjtYChikIDhi",
    "jYChikIDhijYCtkIDh3jYC2qIDht9YChikIDhjtYChg6IDhjtYChikIDhijYChikIDhijYChikIDhijYChikIDhi",
    "jYChikIDhjtYChg6IDhjtYCikv8IE4+IChszYE30IChszYE30ICh7hYEpmIChszYE30IChszYE4+IChszYE30ICh",
    "szYE30IChszYE30IChszYE30IChszYE30IChszYE4+IChszYE30IChszYE30IChszYE30IChszYE30IChszYE4+I",
    "ChszYE30IChszYE30IChszYE30IChszYE30IChszYE30IChszYE4+IChszYE30IChszYE30IChszYE30IChszYE3",
    "0IChszYE30IChszYE4+IChszYE30IChszYE30IChszYE30IChszYE30IChszYE4+IChszYE30IChszYE30IChszY",
    "E30IChszYE30IChszYE30IChszYE4+IChszYE30IChszYE30IChszYE30IChszYE30IChszYE4+IChszYE30IChs",
    "zYE30IChszYE30IChszYE30IChszYE30IChszYE4+IChszYE30IChszYE30IChszYE30IChszYE30IChszYE30IC",
    "hszYE4+IChszYE30IChszYE30IChszYE30IChszYE30IChszYE4+IChszYE30IChszYE30IChszYE30IChszYE30",
    "IChszYE30IChszYE4+IChszYE30IChszYE30IChszYE30IChszYE30IChszYE4+IChszYE30IChszYE30IChszYE",
    "30IChszYE30IChszYE30IChszYE4+IChszYE30IChszYE30IChszYE30IChszYE30IChszYE30IChszYE"]),
  ("America/Mexico_City",
    String.join ["EhuvHhxmfhqlfhjkfi6pkr4fBr0sACnrjYB-kIC87YBhiqICu09YD6nYCjj+ID1lYCl5uID51YCssmID-vYCjh5g",
    "YDhmhYC+mIDhmhYC+mIDhmhYC+mIDhnrYC88IDhnrYChjuID7xYChjuIDhmhYC+mIDhmhYC+mIDhnrYC88IDhnrY",
    "C88IDhnrYC88IDhnrYC+mIDhmhYC+mIDhmhYC+mIDhnrYC88IDhnrYC88IDhnrYC+mIDhmhYC+mIDhmhYC+mIDhm",
    "hYC+mIDhnrYC88IDhnrYC88IDhnrYC+mIDhmhYC+mIDhmhYC+mIDhnrYC88IDhnrYC"]),
  ("America/Miquelon",
    String.join ["E6qP8jf1ifuhfjukj0tPBkhx9mpRCu6sIDhmhYC+mIDhnrYC88IDhnrYC88IDhnrYC+mIDhmhYC+mIDhmhYC+mID",
    "hnrYC88IDhnrYC88IDhnrYC+mIDhmhYC+mIDhmhYC+mIDhmhYC+mIDhnrYC88IDhnrYC88IDhnrYC+mIDhmhYC+m",
    "IDhmhYC+mIDhnrYC88IDhnrYC88IDhnrYC4+IDhszYC30IDhszYC30IDhszYC4+IDhszYC30IDhszYC30IDhszYC",
    "30IDhszYC30IDhszYC30IDhszYC4+IDhszYC30IDhszYC30IDhszYC30IDhszYC30IDhszYC4+IDhszYC30IDhsz",
    "YC30IDhszYC30IDhszYC30IDhszYC30IDhszYC4+IDhszYC30IDhszYC30IDhszYC30IDhszYC30IDhszYC4+IDh",
    "szYC30IDhszYC30IDhszYC30IDhszYC30IDhszYC30IDhszYC4+IDhszYC30IDhszYC30IDhszYC30IDhszYC30I",
    "DhszYC30IDhszYC4+IDhszYC30IDhszYC30IDhszYC30IDhszYC30IDhszYC4+IDhszYC30IDhszYC30IDhszYC3",
    "0IDhszYC30IDhszYC30IDhszYC4+IDhszYC30IDhszYC30IDhszYC30IDhszYC30IDhszYC4+IDhszYC30IDhszY",
    "C30IDhszYC30IDhszYC30IDhszYC30IDhszYC4+IDhszYC30IDhszYC30IDhszYC30IDhszYC30IDhszYC30IDhs",
    "zYC4+IDhszYC30IDhszYC30IDhszYC30IDhszYC30IDhszYC4+IDhszYC30IDhszYC30IDhszYC30IDhszYC30ID",
    "hszYC30IDhszYC4+IDhszYC30IDhszYC30IDhszYC30IDhszYC30IDhszYC4+IDhszYC30IDhszYC30IDhszYC30",
    "IDhszYC30IDhszYC30IDhszYC4+IDhszYC30IDhszYC30IDhszYC30IDhszYC30IDhszYC30IDhszYC"]),
  ("America/Moncton",
    String.join ["E+rXhjkf8jf1iflh8kpkHBhi6rkpJChh8kIDhk3YC-puADxhYChzmIDxhYChzmIDxhYChzmIDxhYChzmIDxhYChz",
    "mIDxhYChx2ID2pYChs6ID3tYChqmID7rYC5qQDn5lYChnsID87YChnsID87YChnsID87YChnsID87YCho2ID7xYC",
    "ho2ID87YChnsID87YChnsID87YChnsID87YChnsID87YCho2ID87YChnsIDhijYChikIDhijYChikIDhijYChikI",
    "DhjtYChikIDhijYChikIDhijYChikIDhijYChikIDhijYChikIDhjtYChg6IDhjtYChikIDhijYChikIDhijYChi",
    "kIDhijYChikIDhijYChikIDhjtYChikIDhijYCjmsIDhijYChikIDhijYChikIDhjtYChg6IDhjtYChikIDhijYC",
    "hikIDhijYChikIDhijYChikIDhijYChikIDhjtYChg6IDhjtYChikIDhijYChikIDhijYChikIDhijYC+mIDhmhY",
    "C+mIDhnrYC88IDhnrYC88IDhnrYC+mIDhmhYC+mIDhmhYC6w56ZDhnrYC88IDhnrYC88IDhnrYC+mIDhmhYC+mID",
    "hmhYC+mIDhmhYC+mIDhnrYC88IDhnrYC88IDhnrYC+mIDhmhYC+mIDhmhYC+mIDhnrYC88IDhnrYC88IDhnrYC1+",
    "g3JDhszYC30IDhszYC30IDhszYC4+IDhszYC30IDhszYC30IDhszYC30IDhszYC30IDhszYC30IDhszYC4+IDhsz",
    "YC30IDhszYC30IDhszYC30IDhszYC30IDhszYC4+IDhszYC30IDhszYC30IDhszYC30IDhszYC30IDhszYC30IDh",
    "szYC4+IDhszYC30IDhszYC30IDhszYC30IDhszYC30IDhszYC4+IDhszYC30IDhszYC30IDhszYC30IDhszYC30I",
    "DhszYC30IDhszYC4+IDhszYC30IDhszYC30IDhszYC30IDhszYC30IDhszYC30IDhszYC4+IDhszYC30IDhszYC3",
    "0IDhszYC30IDhszYC30IDhszYC4+IDhszYC30IDhszYC30IDhszYC30IDhszYC30IDhszYC30IDhszYC4+IDhszY",
    "C30IDhszYC30IDhszYC30IDhszYC30IDhszYC4+IDhszYC30IDhszYC30IDhszYC30IDhszYC30IDhszYC30IDhs",
    "zYC4+IDhszYC30IDhszYC30IDhszYC30IDhszYC30IDhszYC30IDhszYC4+IDhszYC30IDhszYC30IDhszYC30ID",
    "hszYC30IDhszYC4+IDhszYC30IDhszYC30IDhszYC30IDhszYC30IDhszYC30IDhszYC4+IDhszYC30IDhszYC30",
    "IDhszYC30IDhszYC30IDhszYC4+IDhszYC30IDhszYC30IDhszYC30IDhszYC30IDhszYC30IDhszYC4+IDhszYC",
    "30IDhszYC30IDhszYC30IDhszYC30IDhszYC30IDhszYC"]),
  ("America/Monterrey",
    String.join ["EhvgXhxmfhqlfhjkfi6pky5fBr0sICnrjYB-kIC87YBhiqICj37wIDhnrYCv9oIDhmhYC+mIDhmhYC+mIDhmhYC+",
    "mIDhnrYC88IDhnrYChjuID7xYChjuIDhmhYC+mIDhmhYC+mIDhnrYC88IDhnrYC88IDhnrYC88IDhnrYC+mIDhmh",
    "YC+mIDhmhYC+mIDhnrYC88IDhnrYC88IDhnrYC+mIDhmhYC+mIDhmhYC+mIDhmhYC+mIDhnrYC88IDhnrYC88IDh",
    "nrYC+mIDhmhYC+mIDhmhYC+mIDhnrYC88IDhnrYC"]),
  ("America/Montevideo",
    String.join ["H6rF8jf1if4zPxyPuhfqxPi9t18kZBmt1p4bChipYDhiqEChijcDhiqEChijcDwngEC87cDhnsEC87cDhnsEC87c",
    "DhnsEC87cDho2EC7xcDho2EC7xcDhjuEChijcDhnsEC87cD3oECi93cEw7cChi1iEEhg5cCr6EFplYCq76IFhg5Y",
    "Cl20IEhjncCi-0EFprYCj-qIFv3YCjmsIGqvUEhg6IC1gEFyrYCj2kIFutYChzmIFxhYCh16IFutYCqwIFh8rYCw",
    "yuIFunYCh16IFv3YChs0IF2pYChs0IF49YChs0IF3zYChrqIF49YC43uIFhjuIChk4IF87YChmiIF+lYChnsIF87",
    "YChnsIF87YChnsIF+lYChmiIF+lYChmiIF+lYChnsIF87YChnsIF87YChnsIF87YC"]),
  ("America/New_York",
    String.join ["Dhi2Dhjkf8jflh-wn2fBipxnQChnrYB88IChnrYB88ICho1YBhg6IC87YBho2IC7xYBho2IC87YBhnsIC87YBhns",
    "IC87YBhnsIC87YBhnsIC87YBho2IC87YBhnsIC87YBhnsIC87YBhnsIC87YBhnsIC87YBho2IC7xYBho2IC87YBh",
    "nsIC87YBhnsIC87YBhnsIC87YBhnsIC87YBho2IC7xYBho2IC87YBhnsIC87YB5kICn5lYBhnsIC87YBhnsIC87Y",
    "BhnsIC87YBhnsIC87YBho2IC7xYBho2IC87YBhnsIC87YBhnsIC87YBhnsIC87YBhnsIChjtYBhikIChijYBhikI",
    "ChijYBhikIChijYBhikIChijYBhikIChjtYBhikIChijYBhikIChijYBhikIChijYBhikIChijYBhikIChjtYBhg",
    "6IChjtYBhikIChijYBhikIChijYBhikIChijYBhikIChijYBhikIChjtYBhikIChijYBhikIChijYBtkICh3jYB2",
    "qICht9YBhikIChjtYBhg6IChjtYBhikIChijYBhikIChijYBhikIChijYBhikIChijYBhikIChjtYBhg6IChjtYB",
    "hikIChijYBhikIChijYBhikIChijYB+mIChmhYB+mIChnrYB88IChnrYB88IChnrYB+mIChmhYB+mIChmhYB+mIC",
    "hnrYB88IChnrYB88IChnrYB+mIChmhYB+mIChmhYB+mIChmhYB+mIChnrYB88IChnrYB88IChnrYB+mIChmhYB+m",
    "IChmhYB+mIChnrYB88IChnrYB88IChnrYB4+IChszYB30IChszYB30IChszYB4+IChszYB30IChszYB30IChszYB",
    "30IChszYB30IChszYB30IChszYB4+IChszYB30IChszYB30IChszYB30IChszYB30IChszYB4+IChszYB30IChsz",
    "YB30IChszYB30IChszYB30IChszYB30IChszYB4+IChszYB30IChszYB30IChszYB30IChszYB30IChszYB4+ICh",
    "szYB30IChszYB30IChszYB30IChszYB30IChszYB30IChszYB4+IChszYB30IChszYB30IChszYB30IChszYB30I",
    "ChszYB30IChszYB4+IChszYB30IChszYB30IChszYB30IChszYB30IChszYB4+IChszYB30IChszYB30IChszYB3",
    "0IChszYB30IChszYB30IChszYB4+IChszYB30IChszYB30IChszYB30IChszYB30IChszYB4+IChszYB30IChszY",
    "B30IChszYB30IChszYB30IChszYB30IChszYB4+IChszYB30IChszYB30IChszYB30IChszYB30IChszYB30IChs",
    "zYB4+IChszYB30IChszYB30IChszYB30IChszYB30IChszYB4+IChszYB30IChszYB30IChszYB30IChszYB30IC",
    "hszYB30IChszYB4+IChszYB30IChszYB30IChszYB30IChszYB30IChszYB4+IChszYB30IChszYB30IChszYB30",
    "IChszYB30IChszYB30IChszYB4+IChszYB30IChszYB30IChszYB30IChszYB30IChszYB30IChszYB"]),
  ("America/Nome",
    String.join ["Gi7mcitxDitqfimpfh-ofh4nfmgn0hidBh94xpgDCiugn6vdDn5lYChyusIDhijYChikIDhijYChikIDhjtYChik",
    "IDhijYChikIDhijYCtkIDh3jYC2qIDht9YChikIDhjtYChg6IDhjtYChikIDhijYChikIDhijYChikIDhijYChik",
    "IDhijYChikIDhjtYChg6IDhjtYEhijYFhijYEhikIFhijYEhikIFhijYE+mIFhmhYE+mIFhnrYE88IFhnrYE88IF",
    "hnrYE+mIFhmhYE+mIFhmhYE+mIFhnrYE88IFhnrYE88IFhnrYE+mIFhmhYE+mIFhmhYE+mIFhmhYE+mIFhnrYE88",
    "IFhnrYE88IFhnrYE+mIFhmhYE+mIFhmhYE+mIFhnrYE88IFhnrYE88IFhnrYE4+IFhszYE30IFhszYE30IFhszYE",
    "4+IFhszYE30IFhszYE30IFhszYE30IFhszYE30IFhszYE30IFhszYE4+IFhszYE30IFhszYE30IFhszYE30IFhsz",
    "YE30IFhszYE4+IFhszYE30IFhszYE30IFhszYE30IFhszYE30IFhszYE30IFhszYE4+IFhszYE30IFhszYE30IFh",
    "szYE30IFhszYE30IFhszYE4+IFhszYE30IFhszYE30IFhszYE30IFhszYE30IFhszYE30IFhszYE4+IFhszYE30I",
    "FhszYE30IFhszYE30IFhszYE30IFhszYE30IFhszYE4+IFhszYE30IFhszYE30IFhszYE30IFhszYE30IFhszYE4",
    "+IFhszYE30IFhszYE30IFhszYE30IFhszYE30IFhszYE30IFhszYE4+IFhszYE30IFhszYE30IFhszYE30IFhszY",
    "E30IFhszYE4+IFhszYE30IFhszYE30IFhszYE30IFhszYE30IFhszYE30IFhszYE4+IFhszYE30IFhszYE30IFhs",
    "zYE30IFhszYE30IFhszYE30IFhszYE4+IFhszYE30IFhszYE30IFhszYE30IFhszYE30IFhszYE4+IFhszYE30IF",
    "hszYE30IFhszYE30IFhszYE30IFhszYE30IFhszYE4+IFhszYE30IFhszYE30IFhszYE30IFhszYE30IFhszYE4+",
    "IFhszYE30IFhszYE30IFhszYE30IFhszYE30IFhszYE30IFhszYE4+IFhszYE30IFhszYE30IFhszYE30IFhszYE",
    "30IFhszYE30IFhszYE"]),
  ("America/Noronha",
    String.join ["DvmHuhfngfjpq2tpXBhhszrmZChh7ABhi2IChh3YBhj1wIC5wABhq+AC21YBht4IC27YBht4ICw7YB3h6ICvxYBh",
    "-gICrhYBht+ICw7YBht+IC2vYBht+IC21YBhl6qIC49YBhqgIC0-YBhvuICz1YBhvoICz1YBhwyIC2pYB00mIC7x",
    "YBhqgIChpYBikoIC3zYB"]),
  ("America/North_Dakota/Beulah",
    String.join ["Ehv2Vhxmfhqlfhjkflh-v50fBipxnQChnrYB88IChnrYBhv20ICn5lYBhul8IChijYBhikIChijYBhikIChijYBh",
    "ikIChijYBhikIChjtYBhikIChijYBhikIChijYBtkICh3jYB2qICht9YBhikIChjtYBhg6IChjtYBhikIChijYBh",
    "ikIChijYBhikIChijYBhikIChijYBhikIChjtYBhg6IChjtYBhikIChijYBhikIChijYBhikIChijYB+mIChmhYB",
    "+mIChnrYB88IChnrYB88IChnrYB+mIChmhYB+mIChmhYB+mIChnrYB88IChnrYB88IChnrYB+mIChmhYB+mIChmh",
    "YB+mIChmhYB+mIChnrYB88IChnrYB88IChnrYB+mIChmhYB+mIChmhYB+mIChnrYB88IChnrYB88IChnrYB4+ICh",
    "szYB30IChszYB30IChszYB4+ICiknYDhszYC30IDhszYC30IDhszYC30IDhszYC30IDhszYC4+IDhszYC30IDhsz",
    "YC30IDhszYC30IDhszYC30IDhszYC4+IDhszYC30IDhszYC30IDhszYC30IDhszYC30IDhszYC30IDhszYC4+IDh",
    "szYC30IDhszYC30IDhszYC30IDhszYC30IDhszYC4+IDhszYC30IDhszYC30IDhszYC30IDhszYC30IDhszYC30I",
    "DhszYC4+IDhszYC30IDhszYC30IDhszYC30IDhszYC30IDhszYC30IDhszYC4+IDhszYC30IDhszYC30IDhszYC3",
    "0IDhszYC30IDhszYC4+IDhszYC30IDhszYC30IDhszYC30IDhszYC30IDhszYC30IDhszYC4+IDhszYC30IDhszY",
    "C30IDhszYC30IDhszYC30IDhszYC4+IDhszYC30IDhszYC30IDhszYC30IDhszYC30IDhszYC30IDhszYC4+IDhs",
    "zYC30IDhszYC30IDhszYC30IDhszYC30IDhszYC30IDhszYC4+IDhszYC30IDhszYC30IDhszYC30IDhszYC30ID",
    "hszYC4+IDhszYC30IDhszYC30IDhszYC30IDhszYC30IDhszYC30IDhszYC4+IDhszYC30IDhszYC30IDhszYC30",
    "IDhszYC30IDhszYC4+IDhszYC30IDhszYC30IDhszYC30IDhszYC30IDhszYC30IDhszYC4+IDhszYC30IDhszYC",
    "30IDhszYC30IDhszYC30IDhszYC30IDhszYC"]),
  ("America/North_Dakota/Center",
    String.join ["EhvvPhxmfhqlfhjkflh-v50fBipxnQChnrYB88IChnrYBhv20ICn5lYBhul8IChijYBhikIChijYBhikIChijYBh",
    "ikIChijYBhikIChjtYBhikIChijYBhikIChijYBtkICh3jYB2qICht9YBhikIChjtYBhg6IChjtYBhikIChijYBh",
    "ikIChijYBhikIChijYBhikIChijYBhikIChjtYBhg6IChjtYBhikIChijYBhikIChijYBhikIChijYB+mIChmhYB",
    "+mIChnrYB88IChnrYB88IChnrYB+mIChmhYB+mICiknYDhnrYC88IDhnrYC88IDhnrYC+mIDhmhYC+mIDhmhYC+m",
    "IDhmhYC+mIDhnrYC88IDhnrYC88IDhnrYC+mIDhmhYC+mIDhmhYC+mIDhnrYC88IDhnrYC88IDhnrYC4+IDhszYC",
    "30IDhszYC30IDhszYC4+IDhszYC30IDhszYC30IDhszYC30IDhszYC30IDhszYC30IDhszYC4+IDhszYC30IDhsz",
    "YC30IDhszYC30IDhszYC30IDhszYC4+IDhszYC30IDhszYC30IDhszYC30IDhszYC30IDhszYC30IDhszYC4+IDh",
    "szYC30IDhszYC30IDhszYC30IDhszYC30IDhszYC4+IDhszYC30IDhszYC30IDhszYC30IDhszYC30IDhszYC30I",
    "DhszYC4+IDhszYC30IDhszYC30IDhszYC30IDhszYC30IDhszYC30IDhszYC4+IDhszYC30IDhszYC30IDhszYC3",
    "0IDhszYC30IDhszYC4+IDhszYC30IDhszYC30IDhszYC30IDhszYC30IDhszYC30IDhszYC4+IDhszYC30IDhszY",
    "C30IDhszYC30IDhszYC30IDhszYC4+IDhszYC30IDhszYC30IDhszYC30IDhszYC30IDhszYC30IDhszYC4+IDhs",
    "zYC30IDhszYC30IDhszYC30IDhszYC30IDhszYC30IDhszYC4+IDhszYC30IDhszYC30IDhszYC30IDhszYC30ID",
    "hszYC4+IDhszYC30IDhszYC30IDhszYC30IDhszYC30IDhszYC30IDhszYC4+IDhszYC30IDhszYC30IDhszYC30",
    "IDhszYC30IDhszYC4+IDhszYC30IDhszYC30IDhszYC30IDhszYC30IDhszYC30IDhszYC4+IDhszYC30IDhszYC",
    "30IDhszYC30IDhszYC30IDhszYC30IDhszYC"]),
  ("America/North_Dakota/New_Salem",
    String.join ["EhvxFhxmfhqlfhjkflh-v50fBipxnQChnrYB88IChnrYBhv20ICn5lYBhul8IChijYBhikIChijYBhikIChijYBh",
    "ikIChijYBhikIChjtYBhikIChijYBhikIChijYBtkICh3jYB2qICht9YBhikIChjtYBhg6IChjtYBhikIChijYBh",
    "ikIChijYBhikIChijYBhikIChijYBhikIChjtYBhg6IChjtYBhikIChijYBhikIChijYBhikIChijYB+mIChmhYB",
    "+mIChnrYB88IChnrYB88IChnrYB+mIChmhYB+mIChmhYB+mIChnrYB88IChnrYB88IChnrYB+mIChmhYB+mIChmh",
    "YB+mIChmhYB+mIChnrYB88IChnrYB88IChnrYB+mIChmhYB+mICiknYDhnrYC88IDhnrYC88IDhnrYC4+IDhszYC",
    "30IDhszYC30IDhszYC4+IDhszYC30IDhszYC30IDhszYC30IDhszYC30IDhszYC30IDhszYC4+IDhszYC30IDhsz",
    "YC30IDhszYC30IDhszYC30IDhszYC4+IDhszYC30IDhszYC30IDhszYC30IDhszYC30IDhszYC30IDhszYC4+IDh",
    "szYC30IDhszYC30IDhszYC30IDhszYC30IDhszYC4+IDhszYC30IDhszYC30IDhszYC30IDhszYC30IDhszYC30I",
    "DhszYC4+IDhszYC30IDhszYC30IDhszYC30IDhszYC30IDhszYC30IDhszYC4+IDhszYC30IDhszYC30IDhszYC3",
    "0IDhszYC30IDhszYC4+IDhszYC30IDhszYC30IDhszYC30IDhszYC30IDhszYC30IDhszYC4+IDhszYC30IDhszY",
    "C30IDhszYC30IDhszYC30IDhszYC4+IDhszYC30IDhszYC30IDhszYC30IDhszYC30IDhszYC30IDhszYC4+IDhs",
    "zYC30IDhszYC30IDhszYC30IDhszYC30IDhszYC30IDhszYC4+IDhszYC30IDhszYC30IDhszYC30IDhszYC30ID",
    "hszYC4+IDhszYC30IDhszYC30IDhszYC30IDhszYC30IDhszYC30IDhszYC4+IDhszYC30IDhszYC30IDhszYC30",
    "IDhszYC30IDhszYC4+IDhszYC30IDhszYC30IDhszYC30IDhszYC30IDhszYC30IDhszYC4+IDhszYC30IDhszYC",
    "30IDhszYC30IDhszYC30IDhszYC30IDhszYC"]),
  ("America/Nuuk",
    String.join ["E4nf1ifuhfngfjkv+r-fBj350qlBChg5ABhikAChikABhikAChikABhikAChikABhikAChjuABhikAChikABhikA",
    "ChikABhikAChikABhikAChikABhikAChikABhikAChjuABhikAChikABhikAChikABhikAChikABhikAChikABhi",
    "kAChikABhjuAChnsAB88AChnsAB88AChnsAB88ACho2AB7yACho2AB7yACho2AB88AChnsAB88AChnsAB88ACho2",
    "AB7yACho2AB7yACho2AB7yACho2AB88AChnsAB88AChnsAB88ACho2AB7yACho2AB7yACho2AB88AChnsAB88ACh",
    "nsAB88AChnsAB88ACho2AB7yACho2AB7yACho2AB88AChnsAB88AChnsAB88ACho2AB7yACho2AB7yACilyADhns",
    "AC88ADhnsAC88ADhnsAC88ADho2AC7yADho2AC7yADho2AC88ADhnsAC88ADhnsAC88ADho2AC7yADho2AC7yADh",
    "o2AC7yADho2AC88ADhnsAC88ADhnsAC88ADho2AC7yADho2AC7yADho2AC88ADhnsAC88ADhnsAC88ADhnsAC88A",
    "Dho2AC7yADho2AC7yADho2AC88ADhnsAC88ADhnsAC88ADho2AC7yADho2AC7yADho2AC88ADhnsAC88ADhnsAC8",
    "8ADhnsAC88ADho2AC7yADho2AC7yADho2AC88ADhnsAC88ADhnsAC88ADho2AC7yADho2AC7yADho2AC7yADho2A",
    "C88ADhnsAC88ADhnsAC88ADho2AC7yADho2AC7yADho2AC88ADhnsAC88ADhnsAC88ADhnsAC88ADho2AC7yADho",
    "2AC7yADho2AC88ADhnsAC88ADhnsAC88ADho2AC7yADho2AC7yADho2AC88ADhnsAC88ADhnsAC88ADhnsAC88AD",
    "ho2AC7yADho2AC7yADho2AC88ADhnsAC88ADhnsAC88ADho2AC7yADho2AC7yADho2AC7yADho2AC88ADhnsAC88",
    "ADhnsAC88ADho2AC7yADho2AC7yADho2AC88ADhnsAC88ADhnsAC88ADhnsAC"]),
  ("America/Ojinaga",
    String.join ["Ehw+Hhxmfhqlfhjkfi6pkr4fBr0sACnrjYB-kIC87YBhiqICkpgkIDhmhYC+mIDhmhYCikoIB+mIChnrYB88IChn",
    "rYBhjuIC7xYBhjuIChmhYB+mIChmhYB+mIChnrYB88IChnrYB88IChnrYB88IChnrYB+mIChmhYB+mIChmhYB6oI",
    "ChszYB30IChszYB30IChszYB30IChszYB30IChszYB30IChszYB4+IChszYB30IChszYB30IChszYB30IChszYB3",
    "0IChszYB4+IChszYB30ICiknYDhszYC30IDhszYC30IDhszYC30IDhszYC4+IDhszYC30IDhszYC30IDhszYC30I",
    "DhszYC30IDhszYC4+IDhszYC30IDhszYC30IDhszYC30IDhszYC30IDhszYC30IDhszYC4+IDhszYC30IDhszYC3",
    "0IDhszYC30IDhszYC30IDhszYC30IDhszYC4+IDhszYC30IDhszYC30IDhszYC30IDhszYC30IDhszYC4+IDhszY",
    "C30IDhszYC30IDhszYC30IDhszYC30IDhszYC30IDhszYC4+IDhszYC30IDhszYC30IDhszYC30IDhszYC30IDhs",
    "zYC4+IDhszYC30IDhszYC30IDhszYC30IDhszYC30IDhszYC30IDhszYC4+IDhszYC30IDhszYC30IDhszYC30ID",
    "hszYC30IDhszYC30IDhszYC4+IDhszYC30IDhszYC30IDhszYC30IDhszYC30IDhszYC4+IDhszYC30IDhszYC30",
    "IDhszYC30IDhszYC30IDhszYC30IDhszYC4+IDhszYC30IDhszYC30IDhszYC30IDhszYC30IDhszYC4+IDhszYC",
    "30IDhszYC30IDhszYC30IDhszYC30IDhszYC30IDhszYC4+IDhszYC30IDhszYC30IDhszYC30IDhszYC30IDhsz",
    "YC30IDhszYC"]),
  ("America/Panama",
    "DhlofhluPhjkfk2vjs+fBhit099RC"),
  ("America/Paramaribo",
    "F57P58H57H4zP1ifju-p40PBhtky+wZC0m-wvBDiprwiwJE"),
  ("America/Phoenix",
    "Dh0xDhxmfhqlflh-v50fBipxnQChnrYB88IChnrYBhv20ICjx7poZBxiIChipYBhqu9tvJChijYB"),
  ("America/Port-au-Prince",
    String.join ["Ehh8fhh7Xhjkf8jfk2vjwqfBhy89pqZCj81zqtJDhg5YChikIDhijYChikIDhijYChikIDhijYChikIDhijYC+mQ",
    "DhnsAC88ADhnsAC88ADhnsAC+mADhmiAC+mADhmiAC+mADhnsAC88ADhnsAC88ADhnsAC+mADhmiAC+mADhmiACv",
    "9nYDhnrYC88IDhnrYCrvwYDhszYC30IDhszYC30IDhszYC30IDhszYCi9mIDhszYC30IDhszYC30IDhszYC30IDh",
    "szYC4+IDhszYC30IDhszYC30IDhszYC30IDhszYC30IDhszYC30IDhszYC4+IDhszYC30IDhszYC30IDhszYC30I",
    "DhszYC30IDhszYC4+IDhszYC30IDhszYC30IDhszYC30IDhszYC30IDhszYC30IDhszYC4+IDhszYC30IDhszYC3",
    "0IDhszYC30IDhszYC30IDhszYC30IDhszYC4+IDhszYC30IDhszYC30IDhszYC30IDhszYC30IDhszYC4+IDhszY",
    "C30IDhszYC30IDhszYC30IDhszYC30IDhszYC30IDhszYC4+IDhszYC30IDhszYC30IDhszYC30IDhszYC30IDhs",
    "zYC4+IDhszYC30IDhszYC30IDhszYC30IDhszYC30IDhszYC30IDhszYC4+IDhszYC30IDhszYC30IDhszYC30ID",
    "hszYC30IDhszYC30IDhszYC4+IDhszYC30IDhszYC30IDhszYC30IDhszYC30IDhszYC4+IDhszYC30IDhszYC30",
    "IDhszYC30IDhszYC30IDhszYC30IDhszYC4+IDhszYC30IDhszYC30IDhszYC30IDhszYC30IDhszYC4+IDhszYC",
    "30IDhszYC30IDhszYC30IDhszYC30IDhszYC30IDhszYC4+IDhszYC30IDhszYC30IDhszYC30IDhszYC30IDhsz",
    "YC30IDhszYC"]),
  ("America/Porto_Velho",
    String.join ["D9+P8jf1ifjpq1+xPBhhszqwRChh7ABhi2IChh3YBhj1wIC5wABhq+AC21YBht4IC27YBht4ICw7YB3h6ICvxYBh",
    "-gICrhYBht+ICw7YBht+IC2vYBht+IC21YBhl6qIC49YBhqgIC0-YBhvuICz1YB"]),
  ("America/Puerto_Rico",
    "D+-R8jf1ifkljl1kNBixh+uwPCnp0IB"),
  ("America/Punta_Arenas",
    String.join ["FhhnXhhkJhjkf8jf1ifk2vjxgHBhl1k00TCslyvgXBkj-+3LDhwunvXBvr4jgLDhjji3XC82IDhn3YC82IDhn3YC",
    "82IDhn3YC82IDhn9YC82ID07vYCruIDp-vYCpyADht9oAE7xYDhs0IE3zYDhk4IE87YDhnsIE87YDho2IE7xYDhm",
    "iIE+lYDho2IE7xYDho2IE87YDhnsIE87YDhnsIE87YDho2IE7xYDho2IE7xYDho2IE87YDhnsIE87YDhnsIE87YD",
    "hnsIE87YDho2IE7xYDho2IE7xYDho2IEhijYDhikIE87YDhnsIE87YDho2IE7xYDhjuIEhg5YDho2IE87YDhnsIE",
    "87YDhnsIE87YDhnsIE87YDho2IE7xYDho2IE-vYDhk4IE87YDhk4IEhjtYDhjuIE87YDho2IE7xYDho2IE7xYDho",
    "2IE7xYDho2IE87YDhnsIE87YDhnsIE87YDho2IE7xYDho2IE-vYDhk4IE87YDhnsIEhg5YDhjuIEhnrYDz2IEhvn",
    "YD30IEhszYD4+IEhrpYD4+IEjzvYDxiIE"]),
  ("America/Rankin_Inlet",
    String.join ["DAhqlfhjkf4uuo-fBhg52AChijYBhikIChijYBhikIChijYBhikIChijYBhikIChjtYBhg6IChjtYBhikIChijYB",
    "hikIChijYBhikIChijYBhikIChijYBhikIChjtYBhg6IChjtYBhikIChijYBhikIChijYBhikIChijYB+mIChmhY",
    "B+mIChnrYB88IChnrYB88IChnrYB+mIChmhYB+mIChmhYB+mIChnrYB88IChnrYB88IChnrYB+mIChmhYB+mIChm",
    "hYB+mIChmhYB+mIChnrYB88ICjrzYB+mIChmhYB+mIChmhYB+mIChnrYB88IChnrYB88IChnrYB4+IChszYB30IC",
    "hszYB30IChszYB4+IChszYB30IChszYB30IChszYB30IChszYB30IChszYB30IChszYB4+IChszYB30IChszYB30",
    "IChszYB30IChszYB30IChszYB4+IChszYB30IChszYB30IChszYB30IChszYB30IChszYB30IChszYB4+IChszYB",
    "30IChszYB30IChszYB30IChszYB30IChszYB4+IChszYB30IChszYB30IChszYB30IChszYB30IChszYB30IChsz",
    "YB4+IChszYB30IChszYB30IChszYB30IChszYB30IChszYB30IChszYB4+IChszYB30IChszYB30IChszYB30ICh",
    "szYB30IChszYB4+IChszYB30IChszYB30IChszYB30IChszYB30IChszYB30IChszYB4+IChszYB30IChszYB30I",
    "ChszYB30IChszYB30IChszYB4+IChszYB30IChszYB30IChszYB30IChszYB30IChszYB30IChszYB4+IChszYB3",
    "0IChszYB30IChszYB30IChszYB30IChszYB30IChszYB4+IChszYB30IChszYB30IChszYB30IChszYB30IChszY",
    "B4+IChszYB30IChszYB30IChszYB30IChszYB30IChszYB30IChszYB4+IChszYB30IChszYB30IChszYB30IChs",
    "zYB30IChszYB4+IChszYB30IChszYB30IChszYB30IChszYB30IChszYB30IChszYB4+IChszYB30IChszYB30IC",
    "hszYB30IChszYB30IChszYB30IChszYB"]),
  ("America/Recife",
    String.join ["DwrP1ifuhfjpq2skPBhhszxiRChh7ABhi2IChh3YBhj1wIC5wABhq+AC21YBht4IC27YBht4ICw7YB3h6ICvxYBh",
    "-gICrhYBht+ICw7YBht+IC2vYBht+IC21YBhl6qIC49YBhqgIC0-YBhvuICz1YBhvoICz1YBhwyIC2pYB00mIC7x",
    "YBhqgIChpYBikoIC3zYB"]),
  ("America/Regina",
    String.join ["DhxhXhxmfhqlfj5gp2uHB33sunJChk3YB405YC87YBhnsIC87YBhnsIC87YBho2IC7xYBho2IC87YBlr+IChijYB",
    "hikIChg5YBhjuIChijYBhjuIChijYBhikIChijYB2wYCn5lYBhk4IChijYBhk4IC87YBhnsIC87YBhnsIC87YBho",
    "2IC7xYBho2IC87YBhnsIC87YBhnsIC87YBhnsIC87YBhnsIC87YBho2IC87YBhnsIC87YBjr0IChijYBhikIC"]),
  ("America/Resolute",
    String.join ["DAhqlfhjkfhqgx-nfBh05oAChijYBhikIChijYBhikIChijYBhikIChijYBhikIChjtYBhg6IChjtYBhikIChijY",
    "BhikIChijYBhikIChijYBhikIChijYBhikIChjtYBhg6IChjtYBhikIChijYBhikIChijYBhikIChijYB+mIChmh",
    "YB+mIChnrYB88IChnrYB88IChnrYB+mIChmhYB+mIChmhYB+mIChnrYB88IChnrYB88IChnrYB+mIChmhYB+mICh",
    "mhYB+mIChmhYB+mIChnrYB88ICjrzYB+mIChmhYB+mIChmhYB+mIChnrYB88IChnrYB88ICjs9YB30IChszYB30I",
    "ChszYB4+IChszYB30IChszYB30IChszYB30IChszYB30IChszYB30IChszYB4+IChszYB30IChszYB30IChszYB3",
    "0IChszYB30IChszYB4+IChszYB30IChszYB30IChszYB30IChszYB30IChszYB30IChszYB4+IChszYB30IChszY",
    "B30IChszYB30IChszYB30IChszYB4+IChszYB30IChszYB30IChszYB30IChszYB30IChszYB30IChszYB4+IChs",
    "zYB30IChszYB30IChszYB30IChszYB30IChszYB30IChszYB4+IChszYB30IChszYB30IChszYB30IChszYB30IC",
    "hszYB4+IChszYB30IChszYB30IChszYB30IChszYB30IChszYB30IChszYB4+IChszYB30IChszYB30IChszYB30",
    "IChszYB30IChszYB4+IChszYB30IChszYB30IChszYB30IChszYB30IChszYB30IChszYB4+IChszYB30IChszYB",
    "30IChszYB30IChszYB30IChszYB30IChszYB4+IChszYB30IChszYB30IChszYB30IChszYB30IChszYB4+IChsz",
    "YB30IChszYB30IChszYB30IChszYB30IChszYB30IChszYB4+IChszYB30IChszYB30IChszYB30IChszYB30ICh",
    "szYB4+IChszYB30IChszYB30IChszYB30IChszYB30IChszYB30IChszYB4+IChszYB30IChszYB30IChszYB30I",
    "ChszYB30IChszYB30IChszYB"]),
  ("America/Rio_Branco",
    String.join ["D-4fhjkf8jfjpq182fBhhszv3BChh7ABhi2IChh3YBhj1wIC5wABhq+AC21YBht4IC27YBht4ICw7YB3h6ICvxYB",
    "h-gICrhYBht+ICw7YBht+IC2vYBht+IC21YBhl6qIC49YBhqgIC0-YBhvuICz1YBhrzyICrwtYB"]),
  ("America/Santarem",
    String.join ["D50P8jf1ifjpq2i7PBhhszu6RChh7ABhi2IChh3YBhj1wIC5wABhq+AC21YBht4IC27YBht4ICw7YB3h6ICvxYBh",
    "-gICrhYBht+ICw7YBht+IC2vYBht+IC21YBhl6qIC49YBhqgIC0-YBhvuICz1YBhrzyIC"]),
  ("America/Santiago",
    String.join ["EhhkJhjkf8jf1ifjw5+8rVBslyvgXAkj-+3LChwunvXAvr4jgLChjji3XB82IChn3YB82IChn3YB82IChn3YB82I",
    "Chn9YB82IC07vYBruICou3YDotYChoqIBpyACht9oAD7xYChs0ID3zYChk4ID87YChnsID87YCho2ID7xYChmiID",
    "+lYCho2ID7xYCho2ID87YChnsID87YChnsID87YCho2ID7xYCho2ID7xYCho2ID87YChnsID87YChnsID87YChns",
    "ID87YCho2ID7xYCho2ID7xYCho2IDhijYChikID87YChnsID87YCho2ID7xYChjuIDhg5YCho2ID87YChnsID87Y",
    "ChnsID87YChnsID87YCho2ID7xYCho2ID-vYChk4ID87YChk4IDhjtYChjuID87YCho2ID7xYCho2ID7xYCho2ID",
    "7xYCho2ID87YChnsID87YChnsID87YCho2ID7xYCho2ID-vYChk4ID87YChnsIDhg5YChjuIDhnrYCz2IDhvnYC3",
    "0IDhszYC4+IDhrpYC4+IDjzvYCxiIDhzlYCxiIDhzlYCxiIDhszYC88IDhnrYC88IDhnrYC88IDhnrYC+mIDhmhY",
    "C88IDho1YC88IDhnrYC88IDhnrYC88IDhnrYC88IDhnrYC88IDho1YC7yIDho1YC88IDhnrYC88IDhnrYC88IDhn",
    "rYC88IDhnrYC88IDho1YC7yIDho1YC88IDhnrYC88IDhnrYC88IDhnrYC88IDho1YC7yIDho1YC88IDhnrYC88ID",
    "hnrYC88IDhnrYC88IDhnrYC88IDho1YC7yIDho1YC88IDhnrYC88IDhnrYC88IDhnrYC88IDhnrYC88IDho1YC88",
    "IDhnrYC88IDhnrYC88IDhnrYC88IDhnrYC88IDho1YC7yIDho1YC88IDhnrYC88IDhnrYC88IDhnrYC88IDhnrYC",
    "88IDho1YC7yIDho1YC88IDhnrYC88IDhnrYC88IDhnrYC88IDho1YC7yIDho1YC88IDhnrYC88IDhnrYC88IDhnr",
    "YC88IDhnrYC88IDho1YC7yIDho1YC88IDhnrYC88IDhnrYC88IDhnrYC88IDhnrYC88IDho1YC88IDhnrYC88IDh",
    "nrYC88IDhnrYC88IDhnrYC88IDho1YC7yIDho1YC88IDhnrYC88IDhnrYC88IDhnrYC88IDhnrYC88IDho1YC7yI",
    "Dho1YC88IDhnrYC88IDhnrYC88IDhnrYC88IDho1YC7yIDho1YC88IDhnrYC88IDhnrYC88ID"]),
  ("America/Santo_Domingo",
    String.join ["Fhg4Phg5fhjkf8jf-0Pk2vjxvPBixrgy1RCh-lkk3BD21YCl2iIE2jcChukEEwpcCh1oEEvrcCh08EEv3cCh0wEE",
    "v9cCh0qEDh31iICmyAD"]),
  ("America/Sao_Paulo",
    String.join ["D17H1ifuhfjpq2m0XBhhszryZChh7ABhi2IChh3YBhj1wIC5wABhq+AC21YBht4IC27YBht4ICw7YB25gIC4rYBh",
    "-gICrhYBht+ICw7YBht+IC2vYBht+IC21YBhl6qIC49YBhqgIC0-YBhvuICz1YBhvoICz1YBhwyIC2pYBhvoIC2p",
    "YBht+IC0-YBhwyICyrYBhwyIC3zYBhs0IC3zYBhs0IC2pYBhs0IC49YBhrwIC7rYBhqgIC49YBhqgIC7xYBhqgIC",
    "49YBhs0IC3zYBhwyICz1YBht+IC2pYBhw+IC0zYBhs0IC3zYBhwyIC0-YBhrqIC3zYBht+IC2pYBht+IC3zYBhs0",
    "IC3zYBhs0IC49YBhs0IC2pYBht+IC2pYBht+IC3zYBhs0IC3zYBhs0IC3zYBhs0IC3zYBhwyICz1YB"]),
  ("America/Scoresbysund",
    String.join ["EqpPuhfngfAjkv+5+PBj350xiRChg6ABhijQDhijYChikADhikAChikADhikAChikADhjuAChikADhikAChikADh",
    "ikAChikADhikAChikADhikAChikADhikAChikADhjuAChikADhikAChikADhikAChikADhikAChikADhikAChikA",
    "DhikAChjuADhnsAC88ADhnsAC88ADhnsAC88ADho2AC7yADho2AC7yADho2AC88ADhnsAC88ADhnsAC88ADho2AC",
    "7yADho2AC7yADho2AC7yADho2AC88ADhnsAC88ADhnsAC88ADho2AC7yADho2AC7yADho2AC88ADhnsAC88ADhns",
    "AC88ADhnsAC88ADho2AC7yADho2AC7yADho2AC88ADhnsAC88ADhnsAC88ADho2AC7yADho2AC7yADho2ACikoAB",
    "88AChnsAB88AChnsAB88ACho2AB7yACho2AB7yACho2AB88AChnsAB88AChnsAB88ACho2AB7yACho2AB7yACho2",
    "AB7yACho2AB88AChnsAB88AChnsAB88ACho2AB7yACho2AB7yACho2AB88AChnsAB88AChnsAB88AChnsAB88ACh",
    "o2AB7yACho2AB7yACho2AB88AChnsAB88AChnsAB88ACho2AB7yACho2AB7yACho2AB88AChnsAB88AChnsAB88A",
    "ChnsAB88ACho2AB7yACho2AB7yACho2AB88AChnsAB88AChnsAB88ACho2AB7yACho2AB7yACho2AB7yACho2AB8",
    "8AChnsAB88AChnsAB88ACho2AB7yACho2AB7yACho2AB88AChnsAB88AChnsAB88AChnsAB88ACho2AB7yACho2A",
    "B7yACho2AB88AChnsAB88AChnsAB88ACho2AB7yACho2AB7yACho2AB88AChnsAB88AChnsAB88AChnsAB88ACho",
    "2AB7yACho2AB7yACho2AB88AChnsAB88AChnsAB88ACho2AB7yACho2AB7yACho2AB7yACho2AB88AChnsAB88AC",
    "hnsAB88ACho2AB7yACho2AB7yACho2AB88AChnsAB88AChnsAB88AChnsAB"]),
  ("America/Sitka",
    String.join ["FjpqOh-tRh4nfhxmfh-ofmgn0hidBimo7ECiugnzwPDn5lYChyusIDhijYChikIDhijYChikIDhjtYChikIDhijY",
    "ChikIDhijYCtkIDh3jYC2qIDht9YChikIDhjtYChg6IDhjtYChikIDhijYChikIDhijYChikIDhijYChikIDhijY",
    "ChikIDhjtYChg6IDhjtYEhikQChijYEhikIChijYEhikIChijYE+mIChmhYE+mIChnrYE88IChnrYE88IChnrYE+",
    "mIChmhYE+mIChmhYE+mIChnrYE88IChnrYE88IChnrYE+mIChmhYE+mIChmhYE+mIChmhYE+mIChnrYE88IChnrY",
    "E88IChnrYE+mIChmhYE+mIChmhYE+mIChnrYE88IChnrYE88IChnrYE4+IChszYE30IChszYE30IChszYE4+IChs",
    "zYE30IChszYE30IChszYE30IChszYE30IChszYE30IChszYE4+IChszYE30IChszYE30IChszYE30IChszYE30IC",
    "hszYE4+IChszYE30IChszYE30IChszYE30IChszYE30IChszYE30IChszYE4+IChszYE30IChszYE30IChszYE30",
    "IChszYE30IChszYE4+IChszYE30IChszYE30IChszYE30IChszYE30IChszYE30IChszYE4+IChszYE30IChszYE",
    "30IChszYE30IChszYE30IChszYE30IChszYE4+IChszYE30IChszYE30IChszYE30IChszYE30IChszYE4+IChsz",
    "YE30IChszYE30IChszYE30IChszYE30IChszYE30IChszYE4+IChszYE30IChszYE30IChszYE30IChszYE30ICh",
    "szYE4+IChszYE30IChszYE30IChszYE30IChszYE30IChszYE30IChszYE4+IChszYE30IChszYE30IChszYE30I",
    "ChszYE30IChszYE30IChszYE4+IChszYE30IChszYE30IChszYE30IChszYE30IChszYE4+IChszYE30IChszYE3",
    "0IChszYE30IChszYE30IChszYE30IChszYE4+IChszYE30IChszYE30IChszYE30IChszYE30IChszYE4+IChszY",
    "E30IChszYE30IChszYE30IChszYE30IChszYE30IChszYE4+IChszYE30IChszYE30IChszYE30IChszYE30IChs",
    "zYE30IChszYE"]),
  ("America/St_Johns",
    String.join ["F42Xx1X4zPxyPqxPjjmiu-HB+rYAhnmIBhk3YAhj5QByxYAhxwIBhijYAhikIBhijYAhjuIBhg5YAhjuIBhg5YAh",
    "juIBhg5YAhjuIBhg5YAhjuIBhijYAhikIBhijYAhjuIBhg5YAhjuIBhg5YAhjuIBhg5YAhjuIBhg5YAhjuIBhijY",
    "AhjuIBhg5YAhjuIBhg5YA8wQCmi8zZDhg5YChk4QD7xYCho2ID7xYCho2ID7xYChqgID6nYChqgID7xYCho2ID7x",
    "YCho2IDnokIChqgID7xYCho2ID7xYCho2ID7xYCho2ID7xYChqgID7xYChmiID87YChnsID87YChnsID87YChnsI",
    "D87YChnsID87YCho2ID87YChnsID87YChnsID87YChnsID87YChnsIDhjtYChikIDhijYChikIDhijYChikIDhij",
    "YChikIDhijYChikIDhjtYChg6IDhjtYChikIDhijYChikIDhijYChikIDhijYChikIDhijYChikIDhjtYChikIDh",
    "ijYChikIDhijYChikIDhijYChikIDhijYChikIDhjtYChg6IDhjtYChikIDhijYChikIDhijYChikIDhijYChikI",
    "DhijYChikIDhjtYChg6IDhjtYChikIDhijYChikIDhijYChikIDhijYC6w56ZDhmhYC+mIEhnrQC88QDhnrYC88I",
    "DhnrYC+mIDhmhYC+mIDhmhYC+mIDhnrYC88IDhnrYC88IDhnrYC+mIDhmhYC+mIDhmhYC+mIDhmhYC+mIDhnrYC8",
    "8IDhnrYC88IDhnrYC+mIDhmhYC+mIDhmhYC+mIDhnrYC88IDhnrYC88IDhnrYC4+IDhszYC30IDhszYC30IDhszY",
    "C4+IDhszYC30IDhnnptJC30IDhszYC30IDhszYC30IDhszYC30IDhszYC4+IDhszYC30IDhszYC30IDhszYC30ID",
    "hszYC30IDhszYC4+IDhszYC30IDhszYC30IDhszYC30IDhszYC30IDhszYC30IDhszYC4+IDhszYC30IDhszYC30",
    "IDhszYC30IDhszYC30IDhszYC4+IDhszYC30IDhszYC30IDhszYC30IDhszYC30IDhszYC30IDhszYC4+IDhszYC",
    "30IDhszYC30IDhszYC30IDhszYC30IDhszYC30IDhszYC4+IDhszYC30IDhszYC30IDhszYC30IDhszYC30IDhsz",
    "YC4+IDhszYC30IDhszYC30IDhszYC30IDhszYC30IDhszYC30IDhszYC4+IDhszYC30IDhszYC30IDhszYC30IDh",
    "szYC30IDhszYC4+IDhszYC30IDhszYC30IDhszYC30IDhszYC30IDhszYC30IDhszYC4+IDhszYC30IDhszYC30I",
    "DhszYC30IDhszYC30IDhszYC30IDhszYC4+IDhszYC30IDhszYC30IDhszYC30IDhszYC30IDhszYC4+IDhszYC3",
    "0IDhszYC30IDhszYC30IDhszYC30IDhszYC30IDhszYC4+IDhszYC30IDhszYC30IDhszYC30IDhszYC30IDhszY",
    "C4+IDhszYC30IDhszYC30IDhszYC30IDhszYC30IDhszYC30IDhszYC4+IDhszYC30IDhszYC30IDhszYC30IDhs",
    "zYC30IDhszYC30IDhszYC"]),
  ("America/Swift_Current",
    String.join ["DhyxPhxmfhqlfj5gp0+PB33ss3RChk3YBhx68ICn5lYBhnsIC-vYBhk4IC87YBhnsIC87YBhnsIC87YBwn4IChij",
    "YBjmsIChijYBhikIC87YBho2IC7xYB216IC"]),
  ("America/Tegucigalpa",
    "Dho8Hhqlfhjkfi72u6rXBj8p6o5ZC7xYBho2IC7xYBhl2mICxnYB"),
  ("America/Thule",
    String.join ["DhgnX8jf1ifjkv+kgHBksu0huJChijYBhikIChijYBhjuIChnrYB88IChnrYB88IChnrYB+mIChmhYB+mIChmhYB",
    "+mIChmhYB+mIChnrYB88IChnrYB88IChnrYB+mIChmhYB+mIChmhYB+mIChnrYB88IChnrYB88IChnrYB4+IChsz",
    "YB30IChszYB30IChszYB4+IChszYB30IChszYB30IChszYB30IChszYB30IChszYB30IChszYB4+IChszYB30ICh",
    "szYB30IChszYB30IChszYB30IChszYB4+IChszYB30IChszYB30IChszYB30IChszYB30IChszYB30IChszYB4+I",
    "ChszYB30IChszYB30IChszYB30IChszYB30IChszYB4+IChszYB30IChszYB30IChszYB30IChszYB30IChszYB3",
    "0IChszYB4+IChszYB30IChszYB30IChszYB30IChszYB30IChszYB30IChszYB4+IChszYB30IChszYB30IChszY",
    "B30IChszYB30IChszYB4+IChszYB30IChszYB30IChszYB30IChszYB30IChszYB30IChszYB4+IChszYB30IChs",
    "zYB30IChszYB30IChszYB30IChszYB4+IChszYB30IChszYB30IChszYB30IChszYB30IChszYB30IChszYB4+IC",
    "hszYB30IChszYB30IChszYB30IChszYB30IChszYB30IChszYB4+IChszYB30IChszYB30IChszYB30IChszYB30",
    "IChszYB4+IChszYB30IChszYB30IChszYB30IChszYB30IChszYB30IChszYB4+IChszYB30IChszYB30IChszYB",
    "30IChszYB30IChszYB4+IChszYB30IChszYB30IChszYB30IChszYB30IChszYB30IChszYB4+IChszYB30IChsz",
    "YB30IChszYB30IChszYB30IChszYB30IChszYB"]),
  ("America/Tijuana",
    String.join ["Dh27Hhxmfh4nfi6pkr4fBko8ACnrwIBnrjYC52IBhijYC2zyIBnz9YCljwIBh1nYCi4wIB7rYCho2YB87YChnsIB",
    "87YCjr0AB88AChnsAB88ACho2AB88AChnsAB88AChnsAB88AChnsAB88AChnsAB88AChhriIBhjtYChg6IBhjtYC",
    "hikIBhijYChikIBhijYChikIBhijYChikIBhijYChikIBhjtYChg6IBhjtYChikIBhijYChikIBhijYChikIBhij",
    "YC+mIBhmhYC+mIBhnrYC88IBhnrYC88IBhnrYC+mIBhmhYC+mIBhmhYC+mIBhnrYC88IBhnrYC88IBhnrYC+mIBh",
    "mhYC+mIBhmhYC+mIBhmhYC+mIBhnrYC88IBhnrYC88IBhnrYC+mIBhmhYC+mIBhmhYC+mIBhnrYC88IBhnrYC88I",
    "BhnrYC88IBhnrYC+mIBhmhYC+mIBhmhYC6oIBhszYC30IBhszYC30IBhszYC30IBhszYC30IBhszYC30IBhszYC4",
    "+IBhszYC30IBhszYC30IBhszYC30IBhszYC30IBhszYC4+IBhszYC30IBhszYC30IBhszYC30IBhszYC30IBhszY",
    "C30IBhszYC4+IBhszYC30IBhszYC30IBhszYC30IBhszYC30IBhszYC4+IBhszYC30IBhszYC30IBhszYC30IBhs",
    "zYC30IBhszYC30IBhszYC4+IBhszYC30IBhszYC30IBhszYC30IBhszYC30IBhszYC30IBhszYC4+IBhszYC30IB",
    "hszYC30IBhszYC30IBhszYC30IBhszYC4+IBhszYC30IBhszYC30IBhszYC30IBhszYC30IBhszYC30IBhszYC4+",
    "IBhszYC30IBhszYC30IBhszYC30IBhszYC30IBhszYC4+IBhszYC30IBhszYC30IBhszYC30IBhszYC30IBhszYC",
    "30IBhszYC4+IBhszYC30IBhszYC30IBhszYC30IBhszYC30IBhszYC30IBhszYC4+IBhszYC30IBhszYC30IBhsz",
    "YC30IBhszYC30IBhszYC4+IBhszYC30IBhszYC30IBhszYC30IBhszYC30IBhszYC30IBhszYC4+IBhszYC30IBh",
    "szYC30IBhszYC30IBhszYC30IBhszYC4+IBhszYC30IBhszYC30IBhszYC30IBhszYC30IBhszYC30IBhszYC4+I",
    "BhszYC30IBhszYC30IBhszYC30IBhszYC30IBhszYC30IBhszYC"]),
  ("America/Toronto",
    String.join ["DhlmXhjkf8jfktimjxHBhr5otoJChk3YB9hUChnlcBhjuYC7xIBhrqYC3hYBhtmIC3zYBhs0IC3zYBhrqIC6nYBh",
    "qgIC6nYBhqgIC6nYBhqgIC7xYBho2IC87YBhnsIC87YBhnsIC87YBhnsIC87YBho2IC7xYBho2IC87YBhnsIC87Y",
    "BhnsIC87YBhnsIC87YBhnsIC87YBhnsIC87YBho2IC7xYBho2ICrztYBhnsIC87YBhnsIC87YBhnsIC87YBhnsIC",
    "ho1YB88IChnrYB88IC87YBhnsIC87YBhnsIC87YBhnsIC87YBhnsIC87YBho2IC87YBhnsIChijYBhikIChijYBh",
    "ikIChijYBhikIChjtYBhikIChijYBhikIChijYBhikIChijYBhikIChijYBhikIChjtYBhg6IChjtYBhikIChijY",
    "BhikIChijYBhikIChijYBhikIChijYBhikIChjtYBhikIChijYBhikIChijYBhikIChijYBhikIChijYBhikIChj",
    "tYBhg6IChjtYBhikIChijYBhikIChijYBhikIChijYBhikIChijYBhikIChjtYBhg6IChjtYBhikIChijYBhikIC",
    "hijYBhikIChijYB+mIChmhYB+mIChnrYB88IChnrYB88IChnrYB+mIChmhYB+mIChmhYB+mIChnrYB88IChnrYB8",
    "8IChnrYB+mIChmhYB+mIChmhYB+mIChmhYB+mIChnrYB88IChnrYB88IChnrYB+mIChmhYB+mIChmhYB+mIChnrY",
    "B88IChnrYB88IChnrYB4+IChszYB30IChszYB30IChszYB4+IChszYB30IChszYB30IChszYB30IChszYB30IChs",
    "zYB30IChszYB4+IChszYB30IChszYB30IChszYB30IChszYB30IChszYB4+IChszYB30IChszYB30IChszYB30IC",
    "hszYB30IChszYB30IChszYB4+IChszYB30IChszYB30IChszYB30IChszYB30IChszYB4+IChszYB30IChszYB30",
    "IChszYB30IChszYB30IChszYB30IChszYB4+IChszYB30IChszYB30IChszYB30IChszYB30IChszYB30IChszYB",
    "4+IChszYB30IChszYB30IChszYB30IChszYB30IChszYB4+IChszYB30IChszYB30IChszYB30IChszYB30IChsz",
    "YB30IChszYB4+IChszYB30IChszYB30IChszYB30IChszYB30IChszYB4+IChszYB30IChszYB30IChszYB30ICh",
    "szYB30IChszYB30IChszYB4+IChszYB30IChszYB30IChszYB30IChszYB30IChszYB30IChszYB4+IChszYB30I",
    "ChszYB30IChszYB30IChszYB30IChszYB4+IChszYB30IChszYB30IChszYB30IChszYB30IChszYB30IChszYB4",
    "+IChszYB30IChszYB30IChszYB30IChszYB30IChszYB4+IChszYB30IChszYB30IChszYB30IChszYB30IChszY",
    "B30IChszYB4+IChszYB30IChszYB30IChszYB30IChszYB30IChszYB30IChszYB"]),
  ("America/Vancouver",
    String.join ["Dh52Xh4nfhxmflh4qkxHBigvtjrJChk3YBhx68ICn5lYBhnsIC87YBhnsIC87YBhnsIC87YBhnsIC87YBho2IC7x",
    "YBho2IC87YBhnsIC87YBhnsIC87YBhnsIC87YBhnsIC87YBho2IC87YBhnsIC87YBhnsIC87YBhnsIC87YBhnsIC",
    "87YBho2IC7xYBho2IChijYBhikIChijYBhikIChijYBhikIChjtYBhg6IChjtYBhikIChijYBhikIChijYBhikIC",
    "hijYBhikIChijYBhikIChjtYBhikIChijYBhikIChijYBhikIChijYBhikIChijYBhikIChjtYBhg6IChjtYBhik",
    "IChijYBhikIChijYBhikIChijYBhikIChijYBhikIChjtYBhg6IChjtYBhikIChijYBhikIChijYBhikIChijYB+",
    "mIChmhYB+mIChnrYB88IChnrYB88IChnrYB+mIChmhYB+mIChmhYB+mIChnrYB88IChnrYB88IChnrYB+mIChmhY",
    "B+mIChmhYB+mIChmhYB+mIChnrYB88IChnrYB88IChnrYB+mIChmhYB+mIChmhYB+mIChnrYB88IChnrYB88IChn",
    "rYB4+IChszYB30IChszYB30IChszYB4+IChszYB30IChszYB30IChszYB30IChszYB30IChszYB30IChszYB4+IC",
    "hszYB30IChszYB30IChszYB30IChszYB30IChszYB4+IChszYB30IChszYB30IChszYB30IChszYB30IChszYB30",
    "IChszYB4+IChszYB30IChszYB30IChszYB30IChszYB30IChszYB4+IChszYB30IChszYB30IChszYB30IChszYB",
    "30IChszYB30IChszYB4+IChszYB30IChszYB30IChszYB30IChszYB30IChszYB30IChszYB4+IChszYB30IChsz",
    "YB30IChszYB30IChszYB30IChszYB4+IChszYB30IChszYB30IChszYB30IChszYB30IChszYB30IChszYB4+ICh",
    "szYB30IChszYB30IChszYB30IChszYB30IChszYB4+IChszYB30IChszYB30IChszYB30IChszYB30IChszYB30I",
    "ChszYB4+IChszYB30IChszYB30IChszYB30IChszYB30IChszYB30IChszYB4+IChszYB30IChszYB30IChszYB3",
    "0IChszYB30IChszYB4+IChszYB30IChszYB30IChszYB30IChszYB30IChszYB30IChszYB4+IChszYB30IChszY",
    "B30IChszYB30IChszYB30IChszYB4+IChszYB30IChszYB30IChszYB30IChszYB30IChszYB30IChszYB4+IChs",
    "zYB30IChszYB30IChszYB30IChszYB30IChszYB30IChszYB"]),
  ("America/Whitehorse",
    String.join ["Eh-pXh-ofh4nfhxmfkivl62HBhhmpgxJChk3YBhnsIC9-IBhv1wYCn5lYBhp8hYDhjuAB2qAC+p+IDhijYChikID",
    "hijYChikIDhjtYChg6IDhjtYChikIDhijYChikIDhijYChikIDhijYC+mIDhmhYC+mIDhnrYC88IDhnrYC88IDhn",
    "rYC+mIDhmhYC+mIDhmhYC+mIDhnrYC88IDhnrYC88IDhnrYC+mIDhmhYC+mIDhmhYC+mIDhmhYC+mIDhnrYC88ID",
    "hnrYC88IDhnrYC+mIDhmhYC+mIDhmhYC+mIDhnrYC88IDhnrYC88IDhnrYC4+IDhszYC30IDhszYC30IDhszYC4+",
    "IDhszYC30IDhszYC30IDhszYC30IDhszYC30IDhszYC30IDhszYC4+IDhszYC30IDhszYC30IDhszYC30IDhszYC",
    "30ID"]),
  ("America/Winnipeg",
    String.join ["DhtxHhqlfhjkfk7jtn2XBh2j1l0ZC7xYBjr0YChk3YBhn2wIC49YBpruICn5lYBhqgIC87YBhk4IC87YBhnsIC87",
    "YBhnsIC87YBho8IC8vYBhnyIC87YBhnsIC87YBhnsIC87YBhnsIC87YBhnsIC87YBho2IC87YBhnsIC87YBhnsIC",
    "87YBhnsIChijYBhikIC87YBlxmIC7xYBlxmIChjuABhikAChikABhikAChikABhikAChikABhikAChikABhikACh",
    "juABhikAChikABhikAChikABhikAChikABhikAChikABhikAChjuABhg6AChjuABhikAChikABhikAChikABhikA",
    "ChikABhikAChikABhikAChjuABhg6AChjuABhikAChikABhikAChikABhikAChikAB+mAChmiAB+mAChnsAB88AC",
    "hnsAB88AChnsAB+mAChmiAB+mAChmiAB+mAChnsAB88AChnsAB88AChnsAB+mAChmiAB+mAChmiAB+mAChmiAB+m",
    "AChnsAB88AChnsAB88AChnsAB+mAChmiAB+mAChmiAB+mAChnsAB88AChnsAB88AChnrYB4+IChszYB30IChszYB",
    "30IChszYB4+IChszYB30IChszYB30IChszYB30IChszYB30IChszYB30IChszYB4+IChszYB30IChszYB30IChsz",
    "YB30IChszYB30IChszYB4+IChszYB30IChszYB30IChszYB30IChszYB30IChszYB30IChszYB4+IChszYB30ICh",
    "szYB30IChszYB30IChszYB30IChszYB4+IChszYB30IChszYB30IChszYB30IChszYB30IChszYB30IChszYB4+I",
    "ChszYB30IChszYB30IChszYB30IChszYB30IChszYB30IChszYB4+IChszYB30IChszYB30IChszYB30IChszYB3",
    "0IChszYB4+IChszYB30IChszYB30IChszYB30IChszYB30IChszYB30IChszYB4+IChszYB30IChszYB30IChszY",
    "B30IChszYB30IChszYB4+IChszYB30IChszYB30IChszYB30IChszYB30IChszYB30IChszYB4+IChszYB30IChs",
    "zYB30IChszYB30IChszYB30IChszYB30IChszYB4+IChszYB30IChszYB30IChszYB30IChszYB30IChszYB4+IC",
    "hszYB30IChszYB30IChszYB30IChszYB30IChszYB30IChszYB4+IChszYB30IChszYB30IChszYB30IChszYB30",
    "IChszYB4+IChszYB30IChszYB30IChszYB30IChszYB30IChszYB30IChszYB4+IChszYB30IChszYB30IChszYB",
    "30IChszYB30IChszYB30IChszYB"]),
  ("America/Yakutat",
    String.join ["EjnoCihvdh-ofh4nfmgn0hidBh94w8+dCiugn4vDDn5lYChyusIDhijYChikIDhijYChikIDhjtYChikIDhijYCh",
    "ikIDhijYCtkIDh3jYC2qIDht9YChikIDhjtYChg6IDhjtYChikIDhijYChikIDhijYChikIDhijYChikIDhijYCh",
    "ikIDhjtYChg6IDhjtYChikIDhijYChikIDhijYChikIDhijYC+mIDhmhYC+mIDhnrYC88IDhnrYC88IDhnrYC+mI",
    "DhmhYC+mIDhmhYC+mIDhnrYC88IDhnrYC88IDhnrYC+mIDhmhYC+mIDhmhYC+mIDhmhYC+mIDhnrYC88IDhnrYC8",
    "8IDhnrYC+mIDhmhYC+mIDhmhYC+mIDhnrYC88IDhnrYC88IDhnrYC4+IDhszYC30IDhszYC30IDhszYC4+IDhszY",
    "C30IDhszYC30IDhszYC30IDhszYC30IDhszYC30IDhszYC4+IDhszYC30IDhszYC30IDhszYC30IDhszYC30IDhs",
    "zYC4+IDhszYC30IDhszYC30IDhszYC30IDhszYC30IDhszYC30IDhszYC4+IDhszYC30IDhszYC30IDhszYC30ID",
    "hszYC30IDhszYC4+IDhszYC30IDhszYC30IDhszYC30IDhszYC30IDhszYC30IDhszYC4+IDhszYC30IDhszYC30",
    "IDhszYC30IDhszYC30IDhszYC30IDhszYC4+IDhszYC30IDhszYC30IDhszYC30IDhszYC30IDhszYC4+IDhszYC",
    "30IDhszYC30IDhszYC30IDhszYC30IDhszYC30IDhszYC4+IDhszYC30IDhszYC30IDhszYC30IDhszYC30IDhsz",
    "YC4+IDhszYC30IDhszYC30IDhszYC30IDhszYC30IDhszYC30IDhszYC4+IDhszYC30IDhszYC30IDhszYC30IDh",
    "szYC30IDhszYC30IDhszYC4+IDhszYC30IDhszYC30IDhszYC30IDhszYC30IDhszYC4+IDhszYC30IDhszYC30I",
    "DhszYC30IDhszYC30IDhszYC30IDhszYC4+IDhszYC30IDhszYC30IDhszYC30IDhszYC30IDhszYC4+IDhszYC3",
    "0IDhszYC30IDhszYC30IDhszYC30IDhszYC30IDhszYC4+IDhszYC30IDhszYC30IDhszYC30IDhszYC30IDhszY",
    "C30IDhszYC"]),
  ("Antarctica/Casey",
    String.join ["DAh4oAitrAh8k53fBi3p2QC57IBjw8YC19YBp-vYCi+2IBhnsYC+lABhl2YC9nIBhiztzZC6wrxJBhhvluZC6wrx",
    "JBhhvluZC6hmsJB"]),
  ("Antarctica/Davis",
    "DAhxnAhjlA4su--fBw2kIApjnYBi3j8YC7gIBjv3YC1+IB"),
  ("Antarctica/Macquarie",
    String.join ["DAimqAitrAkj-r0-fBhkmqAChg6ABkqlQAh+g+QBhp40AChikABhnsAC4+ABhrqAC4+ABhrqAC6oABhrqAC2qABh",
    "t+AC30ABhs0AC30ABhs0AC30ABhs0AC4+ABhs0AC30ABhs0AC30ABhs0AC30ABhs0AC30ABhs0AC30ABhs0AC88A",
    "Bho2AC7yABho2AC30ABhs0AC30ABhs0AC30ABhrqAC7yABhqgAC7yABhqgAC6oABhqgAC6oABhqgAC88ABhjuACh",
    "g6ABhjuAChg6ABhjuAChg6ABhjuAChg6ABhjuAChikABhjuAChg6ABhjuAChg6ABhjuAChg6ABhjuAChg6AB88AC",
    "hnsABhk4AChg6ABhjuAChg6ABhjuAChg6ABhjuAChg6ABhjuAChikABhikAChg6ABhk4AChikABhikAChikABhik",
    "ACjmsABhikAChikABhjuAChikABhikAChikABhikAChikABhikAChikABhikAChikABhikAChikABhjuAChikABh",
    "ikAChikABhikAChikABhikAChikABhikAChikABhikAChjuABhikAChikABhikAChikABhikAChikABhikAChikA",
    "BhikAChikABhjuAChikABhikAChikABhikAChikABhikAChikABhikAChikABhikAChikABhjuAChikABhikAChi",
    "kABhikAChikABhikAChikABhikAChikABhjuAChikABhikAChikABhikAChikABhikAChikABhikAChikABhikAC",
    "hikABhjuAChikABhikAChikABhikAChikABhikAChikABhikAChikABhikAChjuABhikAChikABhikAChikABhik",
    "AChikABhikAChikABhikAChikABhjuAChikABhikAChikABhikAChikABhikAChikABhikAChikABhikAChikABh",
    "juAChikABhikAChikABhikAChikABhikAChikABhikAChikABhjuAChikABhikAChikABhikAChikABhikAChikA",
    "BhikAChikABhikAChikABhjuAChikABhikAChikABhikAChikABhikAChikABhikAChikABhikAChjuABhikAChi",
    "kABhikAChikABhikAChikABhikAChikABhikAChikABhjuAChikABhikAChikABhikAChikABhikAChikABhikAC",
    "hikABhikAChikABhjuAChikABhikAChikABhikAChikABhikAChikABhikAChikABhjuAChikABhikAChikABhik",
    "AChikABhikAC"]),
  ("Antarctica/Mawson",
    "DAhqmAhjlA97-m3fBj3k-AC"),
  ("Antarctica/Palmer",
    String.join ["EA1if8jfuhfps9pvfBriYChq4IB51YChq4IB-1YChikIBhjtYChikIBhijYChikIBpmxYDyrYBxj8IC+sIB87YCh",
    "nsIB87YCho2IB7xYCho2IB7xYCho2IBhijYChikIB87YChnsIB87YCho2IB7xYChjuIBhg5YCho2IB87YChnsIB8",
    "7YChnsIB87YChnsIB87YCho2IB7xYCho2IB-vYChk4IB87YChk4IBhjtYChjuIB87YCho2IB7xYCho2IB7xYCho2",
    "IB7xYCho2IB87YChnsIB87YChnsIB87YCho2IB7xYCho2IB-vYChk4IB87YChnsIBhg5YChjuIBhnrYCz2IBhvnY",
    "C30IBhszYC4+IBhrpYC4+IBjzvYCxiIB"]),
  ("Antarctica/Rothera",
    "CA1iftgo2wAB"),
  ("Antarctica/Troll",
    String.join ["CAuiAiio4i5ABho2AA7yABho2AA7yABho2AA88ABhnsAA88ABhnsAA88ABho2AA7yABho2AA7yABho2AA88ABhns",
    "AA88ABhnsAA88ABhnsAA88ABho2AA7yABho2AA7yABho2AA88ABhnsAA88ABhnsAA88ABho2AA7yABho2AA7yABh",
    "o2AA88ABhnsAA88ABhnsAA88ABhnsAA88ABho2AA7yABho2AA7yABho2AA88ABhnsAA88ABhnsAA88ABho2AA7yA",
    "Bho2AA7yABho2AA7yABho2AA88ABhnsAA88ABhnsAA88ABho2AA7yABho2AA7yABho2AA88ABhnsAA88ABhnsAA8",
    "8ABhnsAA88ABho2AA7yABho2AA7yABho2AA88ABhnsAA88ABhnsAA88ABho2AA7yABho2AA7yABho2AA88ABhnsA",
    "A88ABhnsAA88ABhnsAA88ABho2AA7yABho2AA7yABho2AA88ABhnsAA88ABhnsAA88ABho2AA7yABho2AA7yABho",
    "2AA7yABho2AA88ABhnsAA88ABhnsAA88ABho2AA7yABho2AA7yABho2AA88ABhnsAA88ABhnsAA88ABhnsAA88AB",
    "ho2AA7yABho2AA7yABho2AA88ABhnsAA88ABhnsAA88ABho2AA7yABho2AA7yABho2AA88ABhnsAA88ABhnsAA88",
    "ABhnsAA88ABho2AA7yABho2AA7yABho2AA88ABhnsAA88ABhnsAA88ABho2AA7yABho2AA7yABho2AA7yABho2AA",
    "88ABhnsAA88ABhnsAA88ABho2AA7yABho2AA7yABho2AA88ABhnsAA88ABhnsAA88ABhnsAA"]),
  ("Antarctica/Vostok",
    "DAhxnAhjlA2097nfBitqmIAhznYBh+q4YC"),
  ("Asia/Almaty",
    String.join ["EhkiIhjlAhqmAhxnAi186iiHBrxp51JCjs1xYDhipYChikIDhipYChikIDhipYChiqIDhikQChikADhikAChikAD",
    "hikAChikADhikAChikADhikAChikADhikAChikADhjuACikoIB1gACtjYDhikAChikADhikAChikADhikAChikAD",
    "hikAChjuADhnsAC88ADhnsAC88ADhnsAC88ADho2AC7yADho2AC7yADho2AC88ADhnsAC88ADhnsAC88ADho2ACh",
    "pr9QB"]),
  ("Asia/Amman",
    String.join ["Dw7AuiA1jAiprw0yfBiv56xxBC19YBhn4IC81YBhn4IC81YBhn+IChivYBhh+IC81YBhnyIC81YBt9qIChipYBhi",
    "2IChijYBhikIChijYBhikIChjtYBhn+IC8pYBhmiIC+lYBhksIC+xYBhk4IChg5YBhikIChijYBhikIC-vYBhmiI",
    "C+mABhmiAC-wABhk4AC-wABhk4AC-wABh10ACv+ABhjoAChiqABhh+AChiqABhikAChikABhikAChnsAB88AChmi",
    "AB-wAChikABhikAChnsAB88AChnsAB88ACho2AB7yACho2AB7yACho2AB88AChnsAB88ACj2jYBysICho2AB7yAC",
    "ho2AB88AChnsAB88AChnsAB88AChnsAB88AChnsAB88ACho2AB7yACho2AB2qAC"]),
  ("Asia/Anadyr",
    String.join ["FizmIi0sAi7tAjiuAitrAi187xmHBrxp3yJCjs1xYDhipYCikuIBhikIChipYBhiqIChikQBhikAChikABhikACh",
    "ikABhikAChikABhikAChikABhikAChikABhikAChjuABikoIE1gABtjYChikABhikAChikABhikAChikABhikACh",
    "ikABhjuAChnsAB88AChnsAB88AChnsAB88ACho2AB7yACho2AB7yACho2AB88AChnsAB88AChnsAB88ACho2AB7y",
    "ACho2AB7yACho2AB7yACho2AB88AChnsAB88AChnsABilyIE7yAB"]),
  ("Asia/Aqtau",
    String.join ["E3yA8kAhjlAhqmAi1851xfBrxp0mBCjt37YDiktYChikIDhipYChiqIDhikQChikADhikAChikADhikAChikADhi",
    "kAChikADhikAChikADhikAChikADhjuACikoIB1gACtjYDhikAChikADhikAChikADhikABhikIChikABhjuAChn",
    "sAB88AChnsAB88AChnsAB88ACho2AB7yACho2AB7yACho2AB88AChnsAB88AChnsAB88AC"]),
  ("Asia/Aqtobe",
    String.join ["E65Q8kAhjlAhqmAi18545PBrxp3tRCjs1xYDjm3YChikIDhipYChiqIDhikQChikADhikAChikADhikAChikADhi",
    "kAChikADhikAChikADhikAChikADhjuACikoIB1gACtjYDhikAChikADhikAChikADhikAChikADhikAChjuADhn",
    "sAC88ADhnsAC88ADhnsAC88ADho2AC7yADho2AC7yADho2AC88ADhnsAC88ADhnsAC88ADho2AC"]),
  ("Asia/Ashgabat",
    String.join ["E7rY8kAhjlAhqmAi1855rXBrxp3-ZCjs1xYDhipYChikIDhipYChikIDhipYChiqIDhikQChikADhikAChikADhi",
    "kAChikADhikAChikADhikAChikADhikAChikADhjuACikoIB1gAC"]),
  ("Asia/Atyrau",
    String.join ["F4rA1jAhjlAhqmA8kAi1852qfBrxp8gBCjt37QDiktYChikIDhipYChiqIDhikQChikADhikAChikADhikAChikA",
    "DhikAChikADhikAChikADhikAChikADhjuACikoIE1gACtjYDhikAChikADhikAChikADhikAChikADhikAChjuA",
    "DhnsAC88ADhnsAC88ADhnsACilyIE7yACho2AE7yACho2AE88AChnsAE88AChnsAE88AC"]),
  ("Asia/Baghdad",
    String.join ["E06I06A1jA8kAk2vlniHBh01mlwJCj5gg13BD81YChh+IDhivYChiqIDhipYChikIDhh+IChikADhikAChikADhi",
    "kAChikADhikAChikADhikAChikADhjuAChiqQDhiqAChiqADhiqAChikADhiqAChikADhiqAChikADhiqAChiqAD",
    "hiqAChikADhiqAChikADhiqAChikADhiqAChiqADhiqAChikADhiqAChikADhiqAChikADhiqAChiqADhiqAChik",
    "ADhiqAChikADhiqAChikADhiqAC"]),
  ("Asia/Baku",
    String.join ["E3rY1jA8kAhjlAi1851rXBh94h7wZChzxtYDhipYChikIDhipYChikIDhipYChiqIDhikQChikADhikAChikADhi",
    "kAChikADhikAChikADhikAChikADhikAChikADhjuACikoIBhikACoyqQDhnsAC87YDhnsAC88ADhnsAC88ADho2",
    "AC7yADho2AC7yADho2AC88ADhnsAC88ADhnsAC88ADho2AC7yADho2AC7yADho2AC7yADho2AC88ADhnsAC88ADh",
    "nsAC88ADho2AC7yADho2AC7yADho2AC88ADhnsAC88ADhnsAC88ADhnsAC"]),
  ("Asia/Bangkok",
    "ChvjYhxnAi9y2sjXB"),
  ("Asia/Barnaul",
    String.join ["EhnoIhqmAhxnAh4oAi+lqhgHBz55xyJCjs1xYDhipYChikIDhipYChikIDhipYChiqIDhikQChikADhikAChikAD",
    "hikAChikADhikAChikADhikAChikADhikAChikADhjuACikoIB1gACtjYDhikAChikADhikAChikADhikAChikAD",
    "r5IC2rABhjuAChnsAB88AChnsAB88AChnsAB88ACho2AB7yACho2AB7yACho2AB88AChnsAB88AChnsAB88ACho2",
    "AB7yACho2AB7yACho2AB7yACho2AB88AChnsAB88AChnsAB88ACho2AB7yACn1tYBjhkIC"]),
  ("Asia/Beirut",
    String.join ["Dw0QuiA1jAlppk+0PBir16wyRChnxYB+gIChipYBhg0IChk3YBhk4IC7xYBin+2IC81YBhn4IC81YBhn4IC81YBh",
    "n+IC81YBhn4IC81YB2+uICy9YBhn4IC81YBhn4IC81YBhn4IC81YBhn+IC81YBhn4IC81YBhnyIC81YBr+wIC-vY",
    "Bhk+IC-vYBhk+IC-vYBhk+IC-vYBhq+IC51YBhm0IC95YBhk+IC-vYBhk+IC-vYBhlkIC9nYBhg6IChijYBhikIC",
    "hijYBhikIChijYBhjuIChijYBhikIChijYBhikIChijYBhikICho1YB7yICho1YB7yICho1YB88IChnrYB88IChn",
    "rYB88ICho1YB7yICho1YB7yICho1YB7yICho1YB88IChnrYB88IChnrYB88ICho1YB7yICho1YB7yICho1YB88IC",
    "hnrYB88IChnrYB88IChnrYB88ICho1YB7yICho1YB7yICho1YB88IChnrYB88IChnrYB88ICho1YB7yICho1YB7y",
    "ICho1YB88IChnrYB88IChnrYB88IChnrYB88ICho1YB7yICho1YB7yICho1YB88IChnrYB88IChnrYB88ICho1YB",
    "7yICho1YB7yICho1YB7yICho1YB88IChnrYB88IChnrYB88ICho1YB7yICho1YB7yICho1YB88IChnrYB88IChnr",
    "YB88IChnrYB88ICho1YB7yICho1YB7yICho1YB88IChnrYB88IChnrYB88ICho1YB7yICho1YB7yICho1YB88ICh",
    "nrYB88IChnrYB88IChnrYB88ICho1YB7yICho1YB7yICho1YB88IChnrYB88IChnrYB88ICho1YB7yICho1YB7yI",
    "Cho1YB7yICho1YB88IChnrYB88IChnrYB88ICho1YB7yICho1YB7yICho1YB88IChnrYB88IChnrYB88IChnrYB8",
    "8ICho1YB7yICho1YB7yICho1YB88IChnrYB88IChnrYB88ICho1YB7yICho1YB7yICho1YB88IChnrYB88IChnrY",
    "B88IChnrYB88ICho1YB7yICho1YB7yICho1YB88IChnrYB88IChnrYB88ICho1YB7yICho1YB7yICho1YB7yICho",
    "1YB88IChnrYB88IChnrYB88ICho1YB7yICho1YB7yICho1YB88IChnrYB88IChnrYB88IChnrYB"]),
  ("Asia/Bishkek",
    String.join ["Ehi-AhjlAhqmAhxnAi186g+fBrxp4yBCjs1xYDhipYChikIDhipYChikIDhipYChiqIDhikQChikADhikAChikAD",
    "hikAChikADhikAChikADhikAChikADhikAChikADhjuACh+6ABhqlYC-vYBhk4IC-vYBhk4IC-vYBhk4IC-vYBhk",
    "4IChg5YBhikcChnrYB88IChnrYB88ICho1YB7yICho1YB7yICho1YB88IChnrYB88IChnrYB88ICho1YB7yIC"]),
  ("Asia/Chita",
    String.join ["Eh1mAh4oAh-pAimqAi+kwjlfBz4-l2BCjs1xYDhipYChikIDhipYChikIDhipYChiqIDhikQChikADhikAChikAD",
    "hikAChikADhikAChikADhikAChikADhikAChikADhjuACikoIB1gACtjYDhikAChikADhikAChikADhikAChikAD",
    "hikAChjuADhnsAC88ADhnsAC88ADhnsAC88ADho2AC7yADho2AC7yADho2AC88ADhnsAC88ADhnsAC88ADho2AC7",
    "yADho2AC7yADho2AC7yADho2AC88ADhnsAC88ADhnsAC88ADho2AC7yADn1tYBjhkQC"]),
  ("Asia/Colombo",
    "FhltYhluIhm1QhqmAht2QlpplztXBhw88x-RCij3xvwZDhs5cEm1+MCjsp3YE87cD0osEC"),
  ("Asia/Damascus",
    String.join ["DxgQuiA1jAi+h1qoPBx6igRC-vYBhk4IC-vYBhk4IC-vYBhk4IChg5YBiyw4IC9hYBhn4IC8vYBhokIC81YBhn4I",
    "C8vYBhm0IC9-YBhn4IC81YBhn+IC81YBhn4IC81YBhn4IC81YBhn4IC81YBhn+IC81YBhn4IC81YBhn4IC81YBhn",
    "4IC81YBhn+IC81YBhn4IC3hYBhtsIC3hYBp7mIChg5YBhj6IChg5YBi+qIChshYB66ICht3YB5wIChrjYB8qIChi",
    "vYBhikIChijYBhipYChipYBhj0IChg-YBhhgIChipYBhjoIChipYBhikIChipYBhiqIChipYBhh+IChivYBhh4IC",
    "hi1YBhikIChipYBhiqIChipYBhikIChipYBhikIChipYBhikIChipYBhiqIChipYBhikIChipYBhikIChgzYBhju",
    "ICho1YB88IChnxYB7sICho1YB88IChnrYB88IChnrYB88IChnrYB88IChnrYB88ICho1YB7yICho1YB7yICho1YB",
    "88IChnrYB88IChnrYB88IChnrYB88ICho1YB7yICho1YB7yIC"]),
  ("Asia/Dhaka",
    "GhqsIhptAht2Qhm1QhqmAhxnAk2vl80HBjhqz--JChln1mRD0uICzt3YEj7xhcFhkyAE"),
  ("Asia/Dili",
    "Dh67Yh4oAh-pAjtjnw-fBigwrYCipl2ABh0lqIC"),
  ("Asia/Dubai",
    "C59Q8kAi+h1zlPB"),
  ("Asia/Dushanbe",
    String.join ["EhgoAhjlAhqmAhxnAi185+nfBrxp17BCjs1xYDhipYChikIDhipYChikIDhipYChiqIDhikQChikADhikAChikAD",
    "hikAChikADhikAChikADhikAChikADhikAChikADhjuACigwIB"]),
  ("Asia/Famagusta",
    String.join ["Dv9IuiA1jAi6xjw9HBjku6o7JChijYBhowIC79YBhg0IChg5YBhjuIChipYBhh+IChijYBhjuIChg5YBhikIChij",
    "YBhikIChijYBhikIChijYBhikIChjtYBhikIChijYBhikIChijYBhikIChijYBhikIChijYBhikIChijYBhikICh",
    "jtYBhikIChijYBhikIChijYBhikIChijYBhikIChijYBhikIChijYBhjuIChijYBhikIChijYBhikIChnsYB88AC",
    "ho2AB7yACho2AB7yACho2AB88AChnsAB88AChnsAB88ACho2AB7yACho2AB7yACho2AB7yACho2AB88AChnsAB88",
    "AChnsAB88ACho2AB7yACho2AB7yACho2AB88AChnsAB88AChnsAB88AChnsAB88ACjs+AB7yACho2AB88AChnsAB",
    "88AChnsAB88ACho2AB7yACho2AB7yACho2AB88AChnsAB88AChnsAB88AChnsAB88ACho2AB7yACho2AB7yACho2",
    "AB88AChnsAB88AChnsAB88ACho2AB7yACho2AB7yACho2AB7yACho2AB88AChnsAB88AChnsAB88ACho2AB7yACh",
    "o2AB7yACho2AB88AChnsAB88AChnsAB88AChnsAB88ACho2AB7yACho2AB7yACho2AB88AChnsAB88AChnsAB88A",
    "Cho2AB7yACho2AB7yACho2AB88AChnsAB88AChnsAB88AChnsAB88ACho2AB7yACho2AB7yACho2AB88AChnsAB8",
    "8AChnsAB88ACho2AB7yACho2AB7yACho2AB7yACho2AB88AChnsAB88AChnsAB88ACho2AB7yACho2AB7yACho2A",
    "B88AChnsAB88AChnsAB88AChnsAB88ACho2AB7yACho2AB7yACho2AB88AChnsAB88AChnsAB88ACho2AB7yACho",
    "2AB7yACho2AB88AChnsAB88AChnsAB88AChnsAB88ACho2AB7yACho2AB7yACho2AB88AChnsAB88AChnsAB88AC",
    "ho2AB7yACho2AB7yACho2AB7yACho2AB88AChnsAB88AChnsAB88ACho2AB7yACho2AB7yACho2AB88AChnsAB88",
    "AChnsAB88AChnsAB"]),
  ("Asia/Gaza",
    String.join ["DwlAuiA1jAkioq60fBiqzyilBC28ABo6ACkl8AB8qAChokAB8wAChokAB-kAChlqAB-kAChlqAB2wxQC6-YBhn4I",
    "C81YBhn4QC8wIBhojYC8wIBhn9YC8wIBhn9YC8wIBhn9YC8wIBhojYC8wIBhn9YC8wIBhn9YC82IBhn3YCmxQBvl",
    "uICyrYBhjuIC49YBqxqICn8ABn5sAC1gABhrqAC6nYBhwyIC0-YBhpoIC8pYBhnsIC7xYBhs0IC3zYBhmiIC87YB",
    "hnsIC+lYBhnsIC+lYBhngIC9nYBhngIC79YBhoqIC9nYBhoqIC-wABhk4AC-wABhk4AC-wABhnsAChijYBhjuICh",
    "ijYBhikIChijYBhikIChijYBhikIChijYBhikIC-wABhk4AChgoIBhhxYChgzYBhj6IC++IBhk9YC87YBhnsIC+m",
    "ABhhz5jZC2ynzJBhms98ZC0jkrJBhtsIChg6ABhjuAChijYBhikIChnrYB9iIChnmAB9iICho1YB7yICho1YB7yI",
    "Cho1YB82AChnxYB88IChnsAB88AChowAB7+AChowIBhikIChijYBhg6IChjtYB-wIChk3YB88IChnrYB88ICho1Y",
    "B7yICho1YB7yICho1YB88IChnrYB88IChnrYB88ICho1YB7yICho1YB7yICho1YB7yICho1YB88IChmhYB+mIChk",
    "3YB-wIChijYBhikIChg5YBhjuIC+lYBpmIChpYB88IC7xYBn8ICj9YB88IC6nYBn8IClnYB88IC3zYBpmICmxYB8",
    "8IC2pYBn8ICqvYB7yIC0-YBn8ICr5YB7yICyrYBpmICtjYB88ICv3YBn8ICv3YB88ICtjYBpmICxhYB88ICr5YBn",
    "8IC0-YB7yICqvYBn8IC2pYB7yICn7YBpmIC3zYB88IClnYBn8IC6nYB88ICizYBpmIC7xYB88IChpYBpmIC87YBh",
    "k4IChg5YBhikIChijYB-wIChk3YB+mIChmhYB88IChnrYB88ICho1YB7yICho1YB7yICho1YB7yICho1YB88IChn",
    "rYB88IChnrYB88ICho1YB7yICho1YB7yIChnrYB+mIChk3YB-wIChjtYBhg6IChg5YBhjuIC-vYBn8IChpYB7yIC",
    "+lYBn8ICizYB7yIC7xYBpmICj9YB88IC49YBn8ICmxYB88IC2pYBpmICn7YB88IC0-YBpmICqvYB7yICz1YBn8IC",
    "tjYB7yICxhYBpmICutYB88ICutYBn8ICxhYB88ICtjYBn8ICyrYB88ICqvYBpmICz1YB88ICplYBn8IC3zYB7yIC",
    "mxYBpmIC49YB7yIClnYBpmIC6nYB88ICizYBn8IC87YB88IChnrYB88ICho1YB7yICho1YB7yICho1YB7yICho1Y",
    "B88IChnrYB88IChnrYB88ICho1YB7yICho1YB7yICho1YB88IChnrYB88IChnrYB88IChnrYB"]),
  ("Asia/Hebron",
    String.join ["DwuOuiA1jAkioq6+NBiqzyiuPC28ABo6ACkl8AB8qAChokAB8wAChokAB-kAChlqAB-kAChlqAB2wxQC6-YBhn4I",
    "C81YBhn4QC8wIBhojYC8wIBhn9YC8wIBhn9YC8wIBhn9YC8wIBhojYC8wIBhn9YC8wIBhn9YC82IBhn3YCmxQBvl",
    "uICyrYBhjuIC49YBqxqICn8ABn5sAC1gABhrqAC6nYBhwyIC0-YBhpoIC8pYBhnsIC7xYBhs0IC3zYBhmiIC87YB",
    "hnsIC+lYBhnsIC+lYBhngIC9nYBhngIC79YBhoqIC9nYBhoqIC-wABhk4AC-wABhk4AC-wABhnsAChijYBhjuICh",
    "ijYBhikIChijYBhikIChijYBhikIChijYBhikIC-wABhk4AChgoIBhhxYChgzYBhj6IC++IBhk9YC9tYBhm6IC+m",
    "ABhmiAC57YBhms98ZC0jkrJBluICl5YBhikIChg6ABhjuAChijYBhikIChnrYB9iIChnmAB9iICho1YB7yICho1Y",
    "B7yICho1YB82AChnxYB88IChnsAB88AChowAB7+AChowIBhikIChijYBhg6IChjtYB-wIChk3YB88IChnrYB88IC",
    "ho1YB7yICho1YB7yICho1YB88IChnrYB88IChnrYB88ICho1YB7yICho1YB7yICho1YB7yICho1YB88IChmhYB+m",
    "IChk3YB-wIChijYBhikIChg5YBhjuIC+lYBpmIChpYB88IC7xYBn8ICj9YB88IC6nYBn8IClnYB88IC3zYBpmICm",
    "xYB88IC2pYBn8ICqvYB7yIC0-YBn8ICr5YB7yICyrYBpmICtjYB88ICv3YBn8ICv3YB88ICtjYBpmICxhYB88ICr",
    "5YBn8IC0-YB7yICqvYBn8IC2pYB7yICn7YBpmIC3zYB88IClnYBn8IC6nYB88ICizYBpmIC7xYB88IChpYBpmIC8",
    "7YBhk4IChg5YBhikIChijYB-wIChk3YB+mIChmhYB88IChnrYB88ICho1YB7yICho1YB7yICho1YB7yICho1YB88",
    "IChnrYB88IChnrYB88ICho1YB7yICho1YB7yIChnrYB+mIChk3YB-wIChjtYBhg6IChg5YBhjuIC-vYBn8IChpYB",
    "7yIC+lYBn8ICizYB7yIC7xYBpmICj9YB88IC49YBn8ICmxYB88IC2pYBpmICn7YB88IC0-YBpmICqvYB7yICz1YB",
    "n8ICtjYB7yICxhYBpmICutYB88ICutYBn8ICxhYB88ICtjYBn8ICyrYB88ICqvYBpmICz1YB88ICplYBn8IC3zYB",
    "7yICmxYBpmIC49YB7yIClnYBpmIC6nYB88ICizYBn8IC87YB88IChnrYB88ICho1YB7yICho1YB7yICho1YB7yIC",
    "ho1YB88IChnrYB88IChnrYB88ICho1YB7yICho1YB7yICho1YB88IChnrYB88IChnrYB88IChnrYB"]),
  ("Asia/Ho_Chi_Minh",
    "Ehx-MhxnAh4oAh-pAjurzqvLBh7yq93NCk23YDhgiABjsgQCx0+ABp0tYChhh8AB"),
  ("Asia/Hong_Kong",
    String.join ["Eh1wUh4oAh-pAh74Qj6y6umfBiusmQC0oADv9ECorgMB87YChqgcB4+AChrqAB88AChikAB88AChnsAB88AChnsA",
    "B88AChnsAB+mAChnsAB88AChnrYB6oIChp-YB6oIChrpYB4+IChrpYB6oIChp-YB6oIChp-YB6oIChp-YB6oIChr",
    "pYB4+IChrpYB4+IChrpYB6oIChp-YB6oIChp-YB-wIChijYBhikIChijYBhikIChjtYBhikIChijYBhikIChijYB",
    "hikIChijYBhikIChijYBhikIChjtYBhikIChijYBtkICh3jYBhikIChijYBhikIChijYBlv8IC+lYB"]),
  ("Asia/Hovd",
    String.join ["Ehq+YhqmAhxnAh4oAj5lwh2XBkom-3gZCrnnYDhipYChiqIDhijYChikIDhijYChikIDhijYChikIDhijYChikID",
    "hijYChikIDhijYChikIDhjtYChikIDhijYChikIDhijYChikIDhijYChikIDhijYChikIDhijYChjuIDhijYChik",
    "IDhijYChikIDhijYClxgYD87YChikIDhijYChikIDhijYChikIDhijYChikIDhijYChikIDhjtYCyluIDhijIChi",
    "kYDhijIC"]),
  ("Asia/Irkutsk",
    String.join ["Ehw8ChxnAh4oAh-pAi9934kBBzynh1DCjs1xYDhipYChikIDhipYChikIDhipYChiqIDhikQChikADhikAChikAD",
    "hikAChikADhikAChikADhikAChikADhikAChikADhjuACikoIB1gACtjYDhikAChikADhikAChikADhikAChikAD",
    "hikAChjuADhnsAC88ADhnsAC88ADhnsAC88ADho2AC7yADho2AC7yADho2AC88ADhnsAC88ADhnsAC88ADho2AC7",
    "yADho2AC7yADho2AC7yADho2AC88ADhnsAC88ADhnsAC88ADho2AC7yADn1tYC"]),
  ("Asia/Jakarta",
    "GhyiAhzyAh03Qh-pAh4oAhxnAi2w99hfBy9iACx1iyyRDnv-UClyqMEko7cC9omEF"),
  ("Asia/Jayapura",
    "Dih+Qh-pAii5Qil9k-mPB2on8lRChpr9cB"),
  ("Asia/Jerusalem",
    String.join ["FwwMwvQuiA1jA8kAlppk+wLBinvmhodChqlmk3RD28ACo6ADkl8AC8qADhokAC8wADhokAC-kADhlqAC-kADhlqA",
    "Cjq2AEy+ADruAChh+ADhiwAC-kAD8wAChlkADhqgAC+mADhikAChg6AD88AChzmADxiAChzmADxiAChx8AD2qACh",
    "nsAD7yAChj93QDyrYChjuID49YCqxqIDn8ACn5sAD1gAChrqAD6nYChwyID0-YChpoID8pYChnsID7xYChs0ID3z",
    "YChmiID87YChnsID+lYChnsID+lYChngID9nYChngID79YChoqID9nYChksIDhi1YChi8IDhhlYChjiID-7YChng",
    "YD87YChqgIDhg5QChi2ID-vYChi8IDhj-YChgoIDhjtYChjiID-vYChj6QDhj5YChguIDhivYChh4ID-7YChksID",
    "hj5YChguIDhivYChh4ID-7YChl2IDhivYChh4IDhhlYChjiIDhn3YC8wIDhn3YC8wIDhn3YC8wIDhphYC7mIDhph",
    "YC7mIDhphYC8wIDhn3YC8wIDhn3YC8wIDhphYC7mIDhphYC7mIDhphYC8wIDhn3YC8wIDhn3YC8wIDhn3YC8wIDh",
    "phYC7mIDhphYC7mIDhphYC8wIDhn3YC8wIDhn3YC8wIDhphYC7mIDhphYC7mIDhphYC7mIDhphYC8wIDhn3YC8wI",
    "Dhn3YC8wIDhphYC7mIDhphYC7mIDhphYC8wIDhn3YC8wIDhn3YC8wIDhn3YC8wIDhphYC7mIDhphYC7mIDhphYC8",
    "wIDhn3YC8wIDhn3YC8wIDhphYC7mIDhphYC7mIDhphYC8wIDhn3YC8wIDhn3YC8wIDhn3YC8wIDhphYC7mIDhphY",
    "C7mIDhphYC8wIDhn3YC8wIDhn3YC8wIDhphYC7mIDhphYC7mIDhphYC7mIDhphYC8wIDhn3YC8wIDhn3YC8wIDhp",
    "hYC7mIDhphYC7mIDhphYC8wIDhn3YC8wIDhn3YC8wIDhn3YC8wIDhphYC7mIDhphYC7mIDhphYC8wIDhn3YC8wID",
    "hn3YC8wIDhphYC7mIDhphYC7mIDhphYC8wIDhn3YC8wIDhn3YC8wIDhn3YC8wIDhphYC7mIDhphYC7mIDhphYC8w",
    "IDhn3YC8wIDhn3YC8wIDhphYC7mIDhphYC7mIDhphYC7mIDhphYC8wIDhn3YC8wIDhn3YC8wIDhphYC7mIDhphYC",
    "7mIDhphYC8wIDhn3YC8wIDhn3YC8wIDhn3YC"]),
  ("Asia/Kabul",
    "DhguA8kA-0Qk2vly1fBjnus+qBC"),
  ("Asia/Kamchatka",
    String.join ["EiqrYitrAi0sAi7tAi4110zXBuqkigZCjs1xYDhipYChikIDhipYChikIDhipYChiqIDhikQChikADhikAChikAD",
    "hikAChikADhikAChikADhikAChikADhikAChikADhjuACikoIB1gACtjYDhikAChikADhikAChikADhikAChikAD",
    "hikAChjuADhnsAC88ADhnsAC88ADhnsAC88ADho2AC7yADho2AC7yADho2AC88ADhnsAC88ADhnsAC88ADho2AC7",
    "yADho2AC7yADho2AC7yADho2AC88ADhnsAC88ADhnsACilyIB7yAC"]),
  ("Asia/Karachi",
    "F-tYhm1Qht2QhjlAhqmAj2wkh1XBiji47gJCm13YBs4gIDjsj4EEhijYDsjmIE81YD++IEhlvYD"),
  ("Asia/Kathmandu",
    "Dhn-Yhm1QhotYi+h2hnXBj8k25yJC"),
  ("Asia/Khandyga",
    String.join ["Fh-xKh4oAh-pAimqAitrAi+kwtxJBz4-whLCjs1xYDhipYChikIDhipYChikIDhipYChiqIDhikQChikADhikACh",
    "ikADhikAChikADhikAChikADhikAChikADhikAChikADhjuACikoIB1gACtjYDhikAChikADhikAChikADhikACh",
    "ikADhikAChjuADhnsAC88ADhnsAC88ADhnsAC88ADho2AC7yADho2AC7yADho2AC88ADhnsAC88ADhnsACsxQDwq",
    "IEho2AD7yAEho2AD7yAEho2AD7yAEho2AD88AEhnsAD88AEhnsAD88AEho2AD7yAE-7IDm1yYC"]),
  ("Asia/Kolkata",
    "FhptQhptAhl0Mhm1Qht2Qm5o3z9PB9l3pwRCij23o4VDijn3n2dEhqrYD0uIEm13YD"),
  ("Asia/Krasnoyarsk",
    String.join ["EhrwchqmAhxnAh4oAi+g75gbBz1rpydCjs1xYDhipYChikIDhipYChikIDhipYChiqIDhikQChikADhikAChikAD",
    "hikAChikADhikAChikADhikAChikADhikAChikADhjuACikoIB1gACtjYDhikAChikADhikAChikADhikAChikAD",
    "hikAChjuADhnsAC88ADhnsAC88ADhnsAC88ADho2AC7yADho2AC7yADho2AC88ADhnsAC88ADhnsAC88ADho2AC7",
    "yADho2AC7yADho2AC7yADho2AC88ADhnsAC88ADhnsAC88ADho2AC7yADn1tYC"]),
  ("Asia/Kuching",
    String.join ["Fhz3Ah03Qh4oAh6zAh-pAiyu382fBs71gvRCl47cDu-59BChtqozBDu-59BChtk-7BDu-59BChtk-7BDu-59BCht",
    "k-7BDu-59BChtqozBDu-59BChtk-7BDu-59BCqxyrBEn0vYC"]),
  ("Asia/Macau",
    String.join ["Eh1nEh4oAh-pAimqAj6y6ynDBil74tmFC4rYDhl1YC+4ID81YCkpiQBhn4AC82ABhl2AChqmAB88AChikAB82ACh",
    "nsAB88AChnsAB88AChnyAB+gAChnsAB88AChnsAB6oAChqgAB6oAChrqAB4+AChrqcB6oIChp-YB6oIChp-YB6oI",
    "Chp-YB6oIChrpYB4+IChrpYB4+IChrpYB6oIChp-YB6oIChp-YB-wIChijQBhikQChijQBhikQChjtYBhikIChij",
    "YBhikIChijYBhikIChijYBhikIChijYBhikIChjtYBhikIChijYBtkICh3jYBhikIChijYBhikIChijYBlv8IC+l",
    "YB"]),
  ("Asia/Magadan",
    String.join ["Eim2AimqAitrAi0sAi187k1fBrxp5kBCjs1xYDhipYChikIDhipYChikIDhipYChiqIDhikQChikADhikAChikAD",
    "hikAChikADhikAChikADhikAChikADhikAChikADhjuACikoIB1gACtjYDhikAChikADhikAChikADhikAChikAD",
    "hikAChjuADhnsAC88ADhnsAC88ADhnsAC88ADho2AC7yADho2AC7yADho2AC88ADhnsAC88ADhnsAC88ADho2AC7",
    "yADho2AC7yADho2AC7yADho2AC88ADhnsAC88ADhnsAC88ADho2AC7yADn1tYBjmsQC"]),
  ("Asia/Makassar",
    "Dh3-Ah4oAh-pAil9k1mfBxulj-BCn37YB"),
  ("Asia/Manila",
    "EjwhPh42Qh4oAh-pAnrj4x+PBjm7mviRCivwpADunYCqwyIDovjYCx80IDqjYChw6oIDhhrYC7jgIDs9YC"),
  ("Asia/Nicosia",
    String.join ["Dv0QuiA1jAi6xjw0PBjku6oyRChijYBhowIC79YBhg0IChg5YBhjuIChipYBhh+IChijYBhjuIChg5YBhikIChij",
    "YBhikIChijYBhikIChijYBhikIChjtYBhikIChijYBhikIChijYBhikIChijYBhikIChijYBhikIChijYBhikICh",
    "jtYBhikIChijYBhikIChijYBhikIChijYBhikIChijYBhikIChijYBhjuIChijYBhikIChijYBhikIChnsYB88AC",
    "ho2AB7yACho2AB7yACho2AB88AChnsAB88AChnsAB88ACho2AB7yACho2AB7yACho2AB7yACho2AB88AChnsAB88",
    "AChnsAB88ACho2AB7yACho2AB7yACho2AB88AChnsAB88AChnsAB88AChnsAB88ACho2AB7yACho2AB7yACho2AB",
    "88AChnsAB88AChnsAB88ACho2AB7yACho2AB7yACho2AB88AChnsAB88AChnsAB88AChnsAB88ACho2AB7yACho2",
    "AB7yACho2AB88AChnsAB88AChnsAB88ACho2AB7yACho2AB7yACho2AB7yACho2AB88AChnsAB88AChnsAB88ACh",
    "o2AB7yACho2AB7yACho2AB88AChnsAB88AChnsAB88AChnsAB88ACho2AB7yACho2AB7yACho2AB88AChnsAB88A",
    "ChnsAB88ACho2AB7yACho2AB7yACho2AB88AChnsAB88AChnsAB88AChnsAB88ACho2AB7yACho2AB7yACho2AB8",
    "8AChnsAB88AChnsAB88ACho2AB7yACho2AB7yACho2AB7yACho2AB88AChnsAB88AChnsAB88ACho2AB7yACho2A",
    "B7yACho2AB88AChnsAB88AChnsAB88AChnsAB88ACho2AB7yACho2AB7yACho2AB88AChnsAB88AChnsAB88ACho",
    "2AB7yACho2AB7yACho2AB88AChnsAB88AChnsAB88AChnsAB88ACho2AB7yACho2AB7yACho2AB88AChnsAB88AC",
    "hnsAB88ACho2AB7yACho2AB7yACho2AB7yACho2AB88AChnsAB88AChnsAB88ACho2AB7yACho2AB7yACho2AB88",
    "AChnsAB88AChnsAB88AChnsAB"]),
  ("Asia/Novokuznetsk",
    String.join ["Eho8AhqmAhxnAh4oAi18-vzfBrxvgmBCjs1xYDhipYChikIDhipYChikIDhipYChiqIDhikQChikADhikAChikAD",
    "hikAChikADhikAChikADhikAChikADhikAChikADhjuACikoIB1gACtjYDhikAChikADhikAChikADhikAChikAD",
    "hikAChjuADhnsAC88ADhnsAC88ADhnsAC88ADho2AC7yADho2AC7yADho2AC88ADhnsAC88ADhnsAC88ADho2AC7",
    "yADho2AC7yADho2AC7yADho2AC88ADhnsAC88ADhnsACilyIB7yAC"]),
  ("Asia/Novosibirsk",
    String.join ["Ehm7YhqmAhxnAh4oAi+kzztXBz5jj-ZCjs1xYDhipYChikIDhipYChikIDhipYChiqIDhikQChikADhikAChikAD",
    "hikAChikADhikAChikADhikAChikADhikAChikADhjuACikoIB1gACtjYDhikAChikADqvIC31ABhikAChikABhi",
    "kAChikABhjuAChnsAB88AChnsAB88AChnsAB88ACho2AB7yACho2AB7yACho2AB88AChnsAB88AChnsAB88ACho2",
    "AB7yACho2AB7yACho2AB7yACho2AB88AChnsAB88AChnsAB88ACho2AB7yACn1tYBj3uIC"]),
  ("Asia/Omsk",
    String.join ["EhisUhjlAhqmAhxnAi+py-0TBz+i3nVCjs1xYDhipYChikIDhipYChikIDhipYChiqIDhikQChikADhikAChikAD",
    "hikAChikADhikAChikADhikAChikADhikAChikADhjuACikoIB1gACtjYDhikAChikADhikAChikADhikAChikAD",
    "hikAChjuADhnsAC88ADhnsAC88ADhnsAC88ADho2AC7yADho2AC7yADho2AC88ADhnsAC88ADhnsAC88ADho2AC7",
    "yADho2AC7yADho2AC7yADho2AC88ADhnsAC88ADhnsAC88ADho2AC7yADn1tYC"]),
  ("Asia/Oral",
    String.join ["F4iI1jAhjlAhqmA8kAi1852iHBrxp73JCjs1xQDjm3YChikIDhipYChiqIDhikQChikADhikAChikADhikAChikA",
    "DhikAChikADhikACikoIEhikAChjuAEhikAChikAE1gAChvoAEhikAChikAEhikAChikAEhikAChikAEhjuAChns",
    "AE88AChnsAE88AChnsAE88ACho2AE7yACho2AE7yACho2AE88AChnsAE88AChnsAE88AC"]),
  ("Asia/Pontianak",
    "FhzoAh03Qh-pAh4oAhxnAil9kwvfBxsriwRCn59UBlyqMDko7cB9omEDhzrzcE"),
  ("Asia/Pyongyang",
    "Dh6+Ih74Qh-pAj0lgnmHBnh4y1ZCm94pcBl6sAC"),
  ("Asia/Qatar",
    "D4lA8kA1jAi+h1xsfBjiy-65BC"),
  ("Asia/Qostanay",
    String.join ["E96I8kAhjlAhqmAi18576HBrxp6uJCjs1xYDjm3YChikIDhipYChiqIDhikQChikADhikAChikADhikAChikADhi",
    "kAChikADhikAChikADhikAChikADhjuACikoIB1gACtjYDhikAChikADhikAChikADhikAChikADhikAChjuADhn",
    "sAC88ADhnsAC88ADhnsAC88ADho2AC7yADho2AC7yADho2AC88ADhnsAC88ADhnsAC88ADhq0zIC"]),
  ("Asia/Qyzylorda",
    String.join ["E+2A8kAhjlAhqmAi18581fBrxp7qBCjs1xYDjm3YChikIDhipYChiqIDhikQChikADhikAChikADhikAChikADhi",
    "kAChikADhikAChikADhikAChikADhjuACi5oADhvoAChikADhikAChikADhikAChikADhikAChjuADhnsAC88ADh",
    "nsAC88ADhnsAC88ADho2AC7yADho2AC7yADho2AC88ADhnsAC88ADhnsAC88AD-w9IC"]),
  ("Asia/Riyadh",
    "C18Y1jAhq8zk0XB"),
  ("Asia/Sakhalin",
    String.join ["Fii8Qh-pAitrAi0sAimqAj5h85kPBirn-yzRCismhQDhipYChikIDhipYChikIDhipYChiqIDhikQChikADhikAC",
    "hikADhikAChikADhikAChikADhikAChikADhikAChikADhjuACikoIE1gACtjYDhikAChikADhikAChikADhikAC",
    "hikADhikAChjuADhnsACikoIE88AChnsAE88ACho2AE7yACho2AE7yACho2AE88AChnsAE88AChnsAE88ACho2AE",
    "7yACho2AE7yACho2AE7yACho2AE88AChnsAE88AChnsAE88ACho2AE7yACn1tYEjhkIC"]),
  ("Asia/Samarkand",
    String.join ["E-sS8kAhjlAhqmAi1859sRBrxp8gTCjs1xYDjm3YChikIDhipYChiqIDhikQChikADhikAChikADhikAChikADhi",
    "kAChikADhikAChikADhikAChikADhjuAChikADhikAC"]),
  ("Asia/Seoul",
    String.join ["Fh7wQh74Qh-pAimqAii5Qj0lgn4PBnh4zoBCit99cDzvYChl8ID+lYChl8ID+rYChs0ID3zYCltoIBis8EE35YBh",
    "v0IE49YBho2IE6nYBhqgIE6nYBhqgIE6nYBhqgIE6nYBh9kICh3joMD88AChnsAD88AC"]),
  ("Asia/Shanghai",
    String.join ["Dh49Oh4oAh-pAkh5m+tNBhislv1PChghYBhsnuIC5jYB82IChrvYBw8ICn1zYBhv6IC6hYBhk4IChlvYBhikIC81",
    "YBhn4IClhYBivhsYC49YBhnsIC87YBho2IC7xYBho2IC87YBhnsIC87YBhnsIC87YB"]),
  ("Asia/Singapore",
    "Ghw1ahxnAhzyAh03Qh-pAh4oAj5vx9lZBhz8vkubCwpyrtBD7186REn0vUDit2oIF"),
  ("Asia/Srednekolymsk",
    String.join ["EiohYimqAitrAi0sAi187mhXBrxp6vZCjs1xYDhipYChikIDhipYChikIDhipYChiqIDhikQChikADhikAChikAD",
    "hikAChikADhikAChikADhikAChikADhikAChikADhjuACikoIB1gACtjYDhikAChikADhikAChikADhikAChikAD",
    "hikAChjuADhnsAC88ADhnsAC88ADhnsAC88ADho2AC7yADho2AC7yADho2AC88ADhnsAC88ADhnsAC88ADho2AC7",
    "yADho2AC7yADho2AC7yADho2AC88ADhnsAC88ADhnsAC88ADho2AC7yADn1tYC"]),
  ("Asia/Taipei",
    String.join ["Dh4+Qh4oAh-pAkrmkn+PBiuw5s2RCxigABhsoAC6hYBhk4IChlvYBhikIC81YBhn4IC81YBhn4IC81YBhn4IC81Y",
    "B8wICht9YB8qIChojYB8qIChojYB8qIChipYBhiqIChipYBhikIChipYBhikIChipYBhikIChipYBht4IC27YBht",
    "yIC27YB63+IChipYBhikIChipYBog2ICxnYB"]),
  ("Asia/Tashkent",
    String.join ["EhgvOhjlAhqmAhxnAi185+vNBrxp2iPCjs1xYDhipYChikIDhipYChikIDhipYChiqIDhikQChikADhikAChikAD",
    "hikAChikADhikAChikADhikAChikADhikAChikADhjuACikoIB"]),
  ("Asia/Tbilisi",
    String.join ["E0-e1jA8kAhjlAi185y-dBh94h5kfChzxtYDhipYChikIDhipYChikIDhipYChiqIDhikQChikADhikAChikADhi",
    "kAChikADhikAChikADhikAChikADhikAChikADhjuACikoIBhijQChijYBhikIChijYBhikICiknYDhijYChjuID",
    "jrzYC88IDhnrYC88IDho1YC7yIDho1YC7yIDho1YC88IDhnrYC88IDhnrYC88IDxhYC31AB7yAC"]),
  ("Asia/Tehran",
    String.join ["F4jQ4zQ-0Q8kAhjlAig-857PBiuyt7-BChn+AD9iEE4+ADysABhk+EC1xYBhiwIChi7YB22sIC6zYBhikIChivYB",
    "hh+IChivYBhh+IChivYBhh+IChivYBhh+IChivYBhikIChivYBhh+IChivYBhh+IChivYBhh+IChivYBhikIChiv",
    "YBhh+IChivYBhh+IChivYBhh+IChivYBhikIChivYBlq6IChivYBhikIChivYBhh+IChivYBhh+IChivYBhh+ICh",
    "ivYBhikIChivYBhh+IChivYBhh+IChivYBhh+IChivYBhikIChivYBhh+IChivYBhh+IChivYBhh+IChivYBhikI",
    "ChivYBhh+IChivYB"]),
  ("Asia/Thimphu",
    "DhqgYhm1QhqmAhqjn1oXBirvs8jJC"),
  ("Asia/Tokyo",
    "DihwGh-pAimqAk6n1t4fBkhj4AC4+ABhmiAC+mABhs0AC30ABhs0AC30AB"),
  ("Asia/Tomsk",
    String.join ["Ehn6OhqmAhxnAh4oAi+jq4yNBz36pkPCjs1xYDhipYChikIDhipYChikIDhipYChiqIDhikQChikADhikAChikAD",
    "hikAChikADhikAChikADhikAChikADhikAChikADhjuACikoIB1gACtjYDhikAChikADhikAChikADhikAChikAD",
    "hikAChjuADhnsAC88ADhnsAC88ADhnsAC88ADho2AC7yADho2AC7yADho2AC88ADl6AChhyIB88AChnsAB88ACho",
    "2AB7yACho2AB7yACho2AB7yACho2AB88AChnsAB88AChnsAB88ACho2AB7yACn1tYBjs+IC"]),
  ("Asia/Ulaanbaatar",
    String.join ["EhyjIhxnAh4oAh-pAj5lwo7HBkom-3kJCrnnYDhipYChiqIDhijYChikIDhijYChikIDhijYChikIDhijYChikID",
    "hijYChikIDhijYChikIDhjtYChikIDhijYChikIDhijYChikIDhijYChikIDhijYChikIDhijYChjuIDhijYChik",
    "IDhijYChikIDhijYClxgYD87YChikIDhijYChikIDhijYChikIDhijYChikIDhijYChikIDhjtYCyluIDhijIChi",
    "kYDhijIC"]),
  ("Asia/Urumqi",
    "ChphYhqmAivgli5XB"),
  ("Asia/Ust-Nera",
    String.join ["GijkMh4oAh-pAi0sAitrAimqAi+kwxkLBz4-z0NCjs1xYDhipIEhikIDhipYEhikIDhipYEhiqIDhikQEhikADhi",
    "kAEhikADhikAEhikADhikAEhikADhikAEhikADhikAEhikADhjuAEikoIF1gAEtjYDhikAEhikADhikAEhikADhi",
    "kAEhikADhikAEhjuADhnsAE88ADhnsAE88ADhnsAE88ADho2AE7yADho2AE7yADho2AE88ADhnsAE88ADhnsAE88",
    "ADho2AE7yADho2AE7yADho2AE7yADho2AE88ADhnsAE88ADhnsAE88ADho2AE7yAD-7IEm1yYF"]),
  ("Asia/Vladivostok",
    String.join ["Eh96Gh-pAimqAitrAi4068qFBupp35HCjs1xYDhipYChikIDhipYChikIDhipYChiqIDhikQChikADhikAChikAD",
    "hikAChikADhikAChikADhikAChikADhikAChikADhjuACikoIB1gACtjYDhikAChikADhikAChikADhikAChikAD",
    "hikAChjuADhnsAC88ADhnsAC88ADhnsAC88ADho2AC7yADho2AC7yADho2AC88ADhnsAC88ADhnsAC88ADho2AC7",
    "yADho2AC7yADho2AC7yADho2AC88ADhnsAC88ADhnsAC88ADho2AC7yADn1tYC"]),
  ("Asia/Yakutsk",
    String.join ["Eh86Eh4oAh-pAimqAi+kwq6DBz4-tqFCjs1xYDhipYChikIDhipYChikIDhipYChiqIDhikQChikADhikAChikAD",
    "hikAChikADhikAChikADhikAChikADhikAChikADhjuACikoIB1gACtjYDhikAChikADhikAChikADhikAChikAD",
    "hikAChjuADhnsAC88ADhnsAC88ADhnsAC88ADho2AC7yADho2AC7yADho2AC88ADhnsAC88ADhnsAC88ADho2AC7",
    "yADho2AC7yADho2AC7yADho2AC88ADhnsAC88ADhnsAC88ADho2AC7yADn1tYC"]),
  ("Asia/Yangon",
    "Dhtieht2Qh-pAi+h2mqdBhqgiksPCmt7MB"),
  ("Asia/Yekaterinburg",
    String.join ["F8tS6sC8kAhjlAhqmAjk0j7tRBl2u0tRC0yll0DDjs1xYEhipYDhikIEhipYDhikIEhipYDhiqIEhikQDhikAEhi",
    "kADhikAEhikADhikAEhikADhikAEhikADhikAEhikADhikAEhjuADikoIC1gADtjYEhikADhikAEhikADhikAEhi",
    "kADhikAEhikADhjuAEhnsAD88AEhnsAD88AEhnsAD88AEho2AD7yAEho2AD7yAEho2AD88AEhnsAD88AEhnsAD88",
    "AEho2AD7yAEho2AD7yAEho2AD7yAEho2AD88AEhnsAD88AEhnsAD88AEho2AD7yAEn1tYD"]),
  ("Asia/Yerevan",
    String.join ["E07Q1jA8kAhjlAi185y7PBh94h5gRChzxtYDhipYChikIDhipYChikIDhipYChiqIDhikQChikADhikAChikADhi",
    "kAChikADhikAChikADhikAChikADhikAChikADhjuACikoIBhikAChikABhikAChikABhikAChikABhikACkp5YD",
    "hnsAC88ADhnsAC88ADho2AC7yADho2AC7yADho2AC88ADhnsAC88ADhnsAC88ADho2AC7yADho2AC7yADho2AC7y",
    "ADho2AC88ADhnsAC88ADhnsAC88ADho2AC7yADho2AC"]),
  ("Atlantic/Azores",
    String.join ["GsgfttPuhfngfAnhAlh4rymfBh01mnxBCpxzYD5wIC2wADhq3YC52IDhq3YC52IDhq3YC58IDhq3YC52IDhq3YCl",
    "ryADhgiACjpgAD-wAChjuADhg6AChk4ADhg6AChk4AD-wACjpgAD-wAChikADhikACjn2ADhikAChg6ADhjuAChk",
    "4AD-wAChikADhikAChg6ADhjuAChk4ADho2ACysADhqsAChh4ADhiqAC+gADn7YE1gADtkIC6oADmxYE4+ADr6IC",
    "4+ADn7YE30ADr6IC4+ADn7YE30ADr6IC+mADhikAChikYDhikAChikADhikAChikADhikAChikADhikAChikADhj",
    "uAChikADhikAChikADhikAChikADhikAChikADhikAChikADhjuAChikADhikAChikADhikAChikADhikAChikAD",
    "hikAChikADhikAChikADhjuAChikADhikAChikADhikAChikADhikAChikADhimzIEhikADhikAEhikADhikAEhj",
    "uADhikAEhikADhikAEhikADhikAEhikADhikAEhikADhikAEhikADhikAEhjuADhikAEhikADhikAEhikADxiIEx",
    "hYFvmAEy+ADhikAEhikADhikAEhikADhjuAEhnsAD88AEhnsAD88AEhnsAD88AEho2AD7yAEho2AD7yAEho2AD88",
    "AEhnsAD88AEhnsAD88AEho2AD7yAEho2AD7yAEho2AD7yAEho2AD88AEhnsAD88AEhnsAD88AEho2AD7yAEho2AD",
    "7yAEho2AD88AEhnsAD88AEhnsAD88AEhnsAD88AEho2AD7yAEho2AD7yAEho2AD88AEhnsAD88AEhnsAD88AEho2",
    "AD7yAEho2AD7yAEho2AD88AEhnsAD88AEhnsAD88AEhnsAD88AEho2AD7yAEho2AD7yAEho2AD88AEhnsAD88AEh",
    "nsAD88AEho2AD7yAEho2AD7yAEho2AD7yAEho2AD88AEhnsAD88AEhnsAD88AEho2AD7yAEho2AD7yAEho2AD88A",
    "EhnsAD88AEhnsAD88AEhnsAD88AEho2AD7yAEho2AD7yAEho2AD88AEhnsAD88AEhnsAD88AEho2AD7yAEho2AD7",
    "yAEho2AD88AEhnsAD88AEhnsAD88AEhnsAD88AEho2AD7yAEho2AD7yAEho2AD88AEhnsAD88AEhnsAD88AEho2A",
    "D7yAEho2AD7yAEho2AD7yAEho2AD88AEhnsAD88AEhnsAD88AEho2AD7yAEho2AD7yAEho2AD88AEhnsAD88AEhn",
    "sAD88AEhnsAD88AEho2AD7yAEho2AD7yAEho2AD88AEhnsAD88AEhnsAD88AEho2AD7yAEho2AD7yAEho2AD88AE",
    "hnsAD88AEhnsAD88AEhnsAD88AEho2AD7yAEho2AD7yAEho2AD88AEhnsAD88AEhnsAD88AEho2AD7yAEho2AD7y",
    "AEho2AD7yAEho2AD88AEhnsAD88AEhnsAD88AEho2AD7yAEho2AD7yAEho2AD88AEhnsAD88AEhnsAD88AEhnsAD"]),
  ("Atlantic/Bermuda",
    String.join ["E+sL3rL8jf1ifjjmto7TBhhrYAhkyIB9hYA4luYC2z+kvVDh0vYC88IDhp-YC4+IDhszYC30IDhszYCjpgID2pYC",
    "hvoIDz1YChwyIDz1YChx8IDyrYChx8IDyrYChx8IDz1YCn+0ID87YChluqIDhijYChikIDhijYChikIDhjtYChg6",
    "IDhjtYChikIDhijYChikIDhijYChikIDhijYChikIDhijYChikIDhjtYChg6IDhjtYChikIDhijYChikIDhijYCh",
    "ikIDhijYC+mIDhmhYC+mIDhnrYC88IDhnrYC88IDhnrYC+mIDhmhYC+mIDhmhYC+mIDhnrYC88IDhnrYC88IDhnr",
    "YC+mIDhmhYC+mIDhmhYC+mIDhmhYC+mIDhnrYC88IDhnrYC88IDhnrYC+mIDhmhYC+mIDhmhYC+mIDhnrYC88IDh",
    "nrYC88IDhnrYC4+IDhszYC30IDhszYC30IDhszYC4+IDhszYC30IDhszYC30IDhszYC30IDhszYC30IDhszYC30I",
    "DhszYC4+IDhszYC30IDhszYC30IDhszYC30IDhszYC30IDhszYC4+IDhszYC30IDhszYC30IDhszYC30IDhszYC3",
    "0IDhszYC30IDhszYC4+IDhszYC30IDhszYC30IDhszYC30IDhszYC30IDhszYC4+IDhszYC30IDhszYC30IDhszY",
    "C30IDhszYC30IDhszYC30IDhszYC4+IDhszYC30IDhszYC30IDhszYC30IDhszYC30IDhszYC30IDhszYC4+IDhs",
    "zYC30IDhszYC30IDhszYC30IDhszYC30IDhszYC4+IDhszYC30IDhszYC30IDhszYC30IDhszYC30IDhszYC30ID",
    "hszYC4+IDhszYC30IDhszYC30IDhszYC30IDhszYC30IDhszYC4+IDhszYC30IDhszYC30IDhszYC30IDhszYC30",
    "IDhszYC30IDhszYC4+IDhszYC30IDhszYC30IDhszYC30IDhszYC30IDhszYC30IDhszYC4+IDhszYC30IDhszYC",
    "30IDhszYC30IDhszYC30IDhszYC4+IDhszYC30IDhszYC30IDhszYC30IDhszYC30IDhszYC30IDhszYC4+IDhsz",
    "YC30IDhszYC30IDhszYC30IDhszYC30IDhszYC4+IDhszYC30IDhszYC30IDhszYC30IDhszYC30IDhszYC30IDh",
    "szYC4+IDhszYC30IDhszYC30IDhszYC30IDhszYC30IDhszYC30IDhszYC"]),
  ("Atlantic/Canary",
    String.join ["EnmfngfAnhAi5-uxwfBhun2tjBCin3rQDhg6IChikADhikAChikADhikAChikADhikAChikADhjuAChikADhikAC",
    "hikADhikAChikADhikAChikADhikAChikADhikAChikADhjuAChikADhikAChikADhikAChikADhikAChikADhik",
    "AChikADhikAChjuADhnsAC88ADhnsAC88ADhnsAC88ADho2AC7yADho2AC7yADho2AC88ADhnsAC88ADhnsAC88A",
    "Dho2AC7yADho2AC7yADho2AC7yADho2AC88ADhnsAC88ADhnsAC88ADho2AC7yADho2AC7yADho2AC88ADhnsAC8",
    "8ADhnsAC88ADhnsAC88ADho2AC7yADho2AC7yADho2AC88ADhnsAC88ADhnsAC88ADho2AC7yADho2AC7yADho2A",
    "C88ADhnsAC88ADhnsAC88ADhnsAC88ADho2AC7yADho2AC7yADho2AC88ADhnsAC88ADhnsAC88ADho2AC7yADho",
    "2AC7yADho2AC7yADho2AC88ADhnsAC88ADhnsAC88ADho2AC7yADho2AC7yADho2AC88ADhnsAC88ADhnsAC88AD",
    "hnsAC88ADho2AC7yADho2AC7yADho2AC88ADhnsAC88ADhnsAC88ADho2AC7yADho2AC7yADho2AC88ADhnsAC88",
    "ADhnsAC88ADhnsAC88ADho2AC7yADho2AC7yADho2AC88ADhnsAC88ADhnsAC88ADho2AC7yADho2AC7yADho2AC",
    "7yADho2AC88ADhnsAC88ADhnsAC88ADho2AC7yADho2AC7yADho2AC88ADhnsAC88ADhnsAC88ADhnsAC88ADho2",
    "AC7yADho2AC7yADho2AC88ADhnsAC88ADhnsAC88ADho2AC7yADho2AC7yADho2AC88ADhnsAC88ADhnsAC88ADh",
    "nsAC88ADho2AC7yADho2AC7yADho2AC88ADhnsAC88ADhnsAC88ADho2AC7yADho2AC7yADho2AC7yADho2AC88A",
    "DhnsAC88ADhnsAC88ADho2AC7yADho2AC7yADho2AC88ADhnsAC88ADhnsAC88ADhnsAC"]),
  ("Atlantic/Cape_Verde",
    "DrgXuhfngfjtjlq1fBih0mACm13YBigukYC"),
  ("Atlantic/Faroe",
    String.join ["DjlPAnhAj0ypt6PBkp25jzRChikABhikAChikABhikAChikABhikAChjuABhikAChikABhikAChikABhikAChikA",
    "BhikAChikABhikAChikABhikAChjuABhikAChikABhikAChikABhikAChikABhikAChikABhikAChikABhjuAChn",
    "sAB88AChnsAB88AChnsAB88ACho2AB7yACho2AB7yACho2AB88AChnsAB88AChnsAB88ACho2AB7yACho2AB7yAC",
    "ho2AB7yACho2AB88AChnsAB88AChnsAB88ACho2AB7yACho2AB7yACho2AB88AChnsAB88AChnsAB88AChnsAB88",
    "ACho2AB7yACho2AB7yACho2AB88AChnsAB88AChnsAB88ACho2AB7yACho2AB7yACho2AB88AChnsAB88AChnsAB",
    "88AChnsAB88ACho2AB7yACho2AB7yACho2AB88AChnsAB88AChnsAB88ACho2AB7yACho2AB7yACho2AB7yACho2",
    "AB88AChnsAB88AChnsAB88ACho2AB7yACho2AB7yACho2AB88AChnsAB88AChnsAB88AChnsAB88ACho2AB7yACh",
    "o2AB7yACho2AB88AChnsAB88AChnsAB88ACho2AB7yACho2AB7yACho2AB88AChnsAB88AChnsAB88AChnsAB88A",
    "Cho2AB7yACho2AB7yACho2AB88AChnsAB88AChnsAB88ACho2AB7yACho2AB7yACho2AB7yACho2AB88AChnsAB8",
    "8AChnsAB88ACho2AB7yACho2AB7yACho2AB88AChnsAB88AChnsAB88AChnsAB88ACho2AB7yACho2AB7yACho2A",
    "B88AChnsAB88AChnsAB88ACho2AB7yACho2AB7yACho2AB88AChnsAB88AChnsAB88AChnsAB88ACho2AB7yACho",
    "2AB7yACho2AB88AChnsAB88AChnsAB88ACho2AB7yACho2AB7yACho2AB7yACho2AB88AChnsAB88AChnsAB88AC",
    "ho2AB7yACho2AB7yACho2AB88AChnsAB88AChnsAB88AChnsAB"]),
  ("Atlantic/Madeira",
    String.join ["En9PngfAnhAjtjlx2fBpxzYC5wIB2wAChq3YB52IChq3YB52IChq3YB58IChq3YB52IChq3YBlryAChgiABjpgAC",
    "-wABhjuAChg6ABhk4AChg6ABhk4AC-wABjpgAC-wABhikAChikABjn2AChikABhg6AChjuABhk4AC-wABhikAChi",
    "kABhg6AChjuABhk4ACho2ABysAChqsABhh4AChiqAB+gACn7YD1gACtkIB6oACmxYD4+ACr6IB4+ACn7YD30ACr6",
    "IB4+ACn7YD30ACr6IB+mAChikABhikYChikABhikAChikABhikAChikABhikAChikABhikAChjuABhikAChikABh",
    "ikAChikABhikAChikABhikAChikABhikAChjuABhikAChikABhikAChikABhikAChikABhikAChikABhikAChikA",
    "BhikAChjuABhikAChikABhikAChikABhikAChikABhikAChin9IDhg6AChikADhikAChikADhjuAChikADhikACh",
    "ikADhikIChikADhikAChikADhikAChikADhikAChikADhjuAChikADhikAChikADhikAChikADhikAChikADhikA",
    "ChikADhikAChjuADhnsAC88ADhnsAC88ADhnsAC88ADho2AC7yADho2AC7yADho2AC88ADhnsAC88ADhnsAC88AD",
    "ho2AC7yADho2AC7yADho2AC7yADho2AC88ADhnsAC88ADhnsAC88ADho2AC7yADho2AC7yADho2AC88ADhnsAC88",
    "ADhnsAC88ADhnsAC88ADho2AC7yADho2AC7yADho2AC88ADhnsAC88ADhnsAC88ADho2AC7yADho2AC7yADho2AC",
    "88ADhnsAC88ADhnsAC88ADhnsAC88ADho2AC7yADho2AC7yADho2AC88ADhnsAC88ADhnsAC88ADho2AC7yADho2",
    "AC7yADho2AC7yADho2AC88ADhnsAC88ADhnsAC88ADho2AC7yADho2AC7yADho2AC88ADhnsAC88ADhnsAC88ADh",
    "nsAC88ADho2AC7yADho2AC7yADho2AC88ADhnsAC88ADhnsAC88ADho2AC7yADho2AC7yADho2AC88ADhnsAC88A",
    "DhnsAC88ADhnsAC88ADho2AC7yADho2AC7yADho2AC88ADhnsAC88ADhnsAC88ADho2AC7yADho2AC7yADho2AC7",
    "yADho2AC88ADhnsAC88ADhnsAC88ADho2AC7yADho2AC7yADho2AC88ADhnsAC88ADhnsAC88ADhnsAC88ADho2A",
    "C7yADho2AC7yADho2AC88ADhnsAC88ADhnsAC88ADho2AC7yADho2AC7yADho2AC88ADhnsAC88ADhnsAC88ADhn",
    "sAC88ADho2AC7yADho2AC7yADho2AC88ADhnsAC88ADhnsAC88ADho2AC7yADho2AC7yADho2AC7yADho2AC88AD",
    "hnsAC88ADhnsAC88ADho2AC7yADho2AC7yADho2AC88ADhnsAC88ADhnsAC88ADhnsAC"]),
  ("Atlantic/South_Georgia",
    "Cxjfuhfk2vkhjfB"),
  ("Atlantic/Stanley",
    String.join ["E7jX8jf1ifuhfjs3uwsHBhwhr94JChg5YBhjuIChg5YBhk4IChg5YBhjuIChg5YBhjuIChg5YBhjuICx-YBi2p8I",
    "C7xYDho1YC6oIDhp-YCii+IB7yICho1YB7yICho1YB7yICho1YB7yIChp-YB6oIChp-YB7yICho1YB7yICho1YB7",
    "yICho1YB7yICho1YB7yIChp-YB7yICho1YB7yICho1YB7yICho1YB7yICho1YB7yICho2IB6oIChrpYB4+IChrpY",
    "B6oIChp-YB6oIChp-YB6oIChp-YB6oIChp-YB6oIChrpYB6oIChp-YB6oIChp-YB6oIC"]),
  ("Australia/Adelaide",
    String.join ["Eig+Yh-pAii5Qip6Qks9l6uXBn-t8lZChl6kMDvyACh1gwADwqAChikADhikAChjuADhg6ACh7igAD2qACht+AD3",
    "0AChs0AD30AChs0AD30AChs0AD4+AChs0AD30AChs0AD30AChs0AD30AChs0AD30AChs0AD30AChs0AD4+AChs0A",
    "D30AChs0AD30AChs0AD30AChs0AD6oACho2AD7yAChqgAD7yAChqgAD6oAChqgAD6oAChqgAD30AChs0AD7yACho",
    "2AD4+AChs0AD6oAChqgAD7yACho2AD88AChnsAD88AChnsAD88AChnsAD88ACho2AD7yACho2AD7yACho2AD88AC",
    "hnsAD88AChnsAD88ACho2AD7yACho2AD88AChnsAD7yACho2AD+mAChikADhikAChikADhikAChikADhikAChikA",
    "DhikAChjuADhikAChikADhikAChikADhikAChikADhikAChikADhikAChikADhikAChjuADhikAChikADhikAChi",
    "kADhikAChikADhikAChikADhikAChikADhjuAChikADhikAChikADhikAChikADhikAChikADhikAChikADhikAC",
    "hjuADhikAChikADhikAChikADhikAChikADhikAChikADhikAChikADhikAChjuADhikAChikADhikAChikADhik",
    "AChikADhikAChikADhikAChjuADhikAChikADhikAChikADhikAChikADhikAChikADhikAChikADhikAChjuADh",
    "ikAChikADhikAChikADhikAChikADhikAChikADhikAChikADhjuAChikADhikAChikADhikAChikADhikAChikA",
    "DhikAChikADhikAChjuADhikAChikADhikAChikADhikAChikADhikAChikADhikAChikADhikAChjuADhikAChi",
    "kADhikAChikADhikAChikADhikAChikADhikAChjuADhikAChikADhikAChikADhikAChikADhikAChikADhikAC",
    "hikADhikAChjuADhikAChikADhikAChikADhikAChikADhikAChikADhikAChikADhjuAChikADhikAChikADhik",
    "AChikADhikAChikADhikAChikADhikAChjuADhikAChikADhikAChikADhikAChikADhikAChikADhikAChikADh",
    "ikAChjuADhikAChikADhikAChikADhikAChikADhikAChikADhikAChjuADhikAChikADhikAChikADhikAChikA",
    "D"]),
  ("Australia/Brisbane",
    String.join ["Din3QimqAitrAktipwvPBhpskx3RCvyABh1gwACwqABhikAChikABhjuAChg6ABh7igAC2qABhl6kAC30ABhs0AC",
    "30ABhs0AC30AB"]),
  ("Australia/Broken_Hill",
    String.join ["FiipYimqAh-pAii5Qip6Qks9l75XBi94u3ZCl3+IDhl6kMEvyADh1gwAEwqADhikAEhikADhjuAEhg6ADh7igAE2",
    "qADht+AE30ADhs0AE30ADhs0AE30ADhs0AE4+ADhs0AE30ADhs0AE30ADhs0AE30ADhs0AE30ADhs0AE30ADhs0A",
    "E+mADhnsAE30ADhs0AE30ADhs0AE30ADhs0AE6oADho2AE7yADhqgAE7yADhqgAE6oADhqgAE30ADhs0AE30ADhs",
    "0AE30ADhs0AE4+ADhs0AE30ADhs0AE30ADhs0AE88ADhnsAE88ADhnsAE88ADhnsAE88ADho2AE7yADho2AE7yAD",
    "ho2AE88ADhnsAE88ADhnsAE88ADho2AE7yADho2AE88ADhnsAE7yADho2AE+mADhikAEhikADhikAEhikADhikAE",
    "hikADhikAEhikADhjuAEhikADhikAEhikADhikAEhikADhikAEhikADhikAEhikADhikAEhikADhjuAEhikADhik",
    "AEhikADhikAEhikADhikAEhikADhikAEhikADhikAEhjuADhikAEhikADhikAEhikADhikAEhikADhikAEhikADh",
    "ikAEhikADhjuAEhikADhikAEhikADhikAEhikADhikAEhikADhikAEhikADhikAEhikADhjuAEhikADhikAEhikA",
    "DhikAEhikADhikAEhikADhikAEhikADhjuAEhikADhikAEhikADhikAEhikADhikAEhikADhikAEhikADhikAEhi",
    "kADhjuAEhikADhikAEhikADhikAEhikADhikAEhikADhikAEhikADhikAEhjuADhikAEhikADhikAEhikADhikAE",
    "hikADhikAEhikADhikAEhikADhjuAEhikADhikAEhikADhikAEhikADhikAEhikADhikAEhikADhikAEhikADhju",
    "AEhikADhikAEhikADhikAEhikADhikAEhikADhikAEhikADhjuAEhikADhikAEhikADhikAEhikADhikAEhikADh",
    "ikAEhikADhikAEhikADhjuAEhikADhikAEhikADhikAEhikADhikAEhikADhikAEhikADhikAEhjuADhikAEhikA",
    "DhikAEhikADhikAEhikADhikAEhikADhikAEhikADhjuAEhikADhikAEhikADhikAEhikADhikAEhikADhikAEhi",
    "kADhikAEhikADhjuAEhikADhikAEhikADhikAEhikADhikAEhikADhikAEhikADhjuAEhikADhikAEhikADhikAE",
    "hikADhikAE"]),
  ("Australia/Darwin",
    "Eh9qQh-pAii5Qip6Qks9l26PBn-t4xRChl6kMDvyACh1gwADwqAChikADhikAChjuADhg6AC"),
  ("Australia/Eucla",
    String.join ["Dh8tAh9wYikxYkrrn60fBhn1jk2JCvyABh1gwACwqABhikAChikABijzgAC30AByxoAC30ABwv0ACz2AB-y0AC1g",
    "ABho2AC88ABhnsAC88AB"]),
  ("Australia/Hobart",
    String.join ["DilhYimqAitrAkr6n-xXBhn0975ZChg6ABho2AC30ABhs0AC30ABhw7+ACwqABhikAChikABhjuAChg6ABhyquAC",
    "hikABhnsAC4+ABhrqAC4+ABhrqAC6oABhrqAC2qABht+AC30ABhs0AC30ABhs0AC30ABhs0AC4+ABhs0AC30ABhs",
    "0AC30ABhs0AC30ABhs0AC30ABhs0AC30ABhs0AC88ABho2AC7yABho2AC30ABhs0AC30ABhs0AC30ABhrqAC7yAB",
    "hqgAC7yABhqgAC6oABhqgAC6oABhqgAC88ABhjuAChg6ABhjuAChg6ABhjuAChg6ABhjuAChg6ABhjuAChikABhj",
    "uAChg6ABhjuAChg6ABhjuAChg6ABhjuAChg6AB88AChnsABhk4AChg6ABhjuAChg6ABhjuAChg6ABhjuAChg6ABh",
    "juAChikABhikAChg6ABhk4AChikABhikAChikABhikAChikABhikAChikABhikAChikABhjuAChikABhikAChikA",
    "BhikAChikABhikAChikABhikAChikABhikAChikABhjuAChikABhikAChikABhikAChikABhikAChikABhikAChi",
    "kABhikAChjuABhikAChikABhikAChikABhikAChikABhikAChikABhikAChikABhjuAChikABhikAChikABhikAC",
    "hikABhikAChikABhikAChikABhikAChikABhjuAChikABhikAChikABhikAChikABhikAChikABhikAChikABhju",
    "AChikABhikAChikABhikAChikABhikAChikABhikAChikABhikAChikABhjuAChikABhikAChikABhikAChikABh",
    "ikAChikABhikAChikABhikAChjuABhikAChikABhikAChikABhikAChikABhikAChikABhikAChikABhjuAChikA",
    "BhikAChikABhikAChikABhikAChikABhikAChikABhikAChikABhjuAChikABhikAChikABhikAChikABhikAChi",
    "kABhikAChikABhjuAChikABhikAChikABhikAChikABhikAChikABhikAChikABhikAChikABhjuAChikABhikAC",
    "hikABhikAChikABhikAChikABhikAChikABhikAChjuABhikAChikABhikAChikABhikAChikABhikAChikABhik",
    "AChikABhjuAChikABhikAChikABhikAChikABhikAChikABhikAChikABhikAChikABhjuAChikABhikAChikABh",
    "ikAChikABhikAChikABhikAChikABhjuAChikABhikAChikABhikAChikABhikAC"]),
  ("Australia/Lindeman",
    String.join ["Dil6YimqAitrAktipuyXBhpskv6ZCvyABh1gwACwqABhikAChikABhjuAChg6ABh7igAC2qABhl6kAC30ABhs0AC",
    "30ABhs0AC30ABhs0AC4+ABhs0AC30AB"]),
  ("Australia/Lord_Howe",
    String.join ["FiqyIimqAip6Qiw7QitrAks9mkiHBlh8-3wJChs0MD49YChs0ID3zYChs0ID3zYChs0ID3zYChs0IE6ncCho2EE7",
    "xcChqgEE7xcChqgEE6ncChqgEE3zcChs0EE3zcChs0EE3zcChs0EE49cChs0EE3zcChs0EE3zcChs0EE87cChnsE",
    "E87cChnsEE87cChnsEE87cCho2EE7xcC88EEhnrcCho2EE87cChnsEE87cChnsEE87cCho2EE7xcCho2EE87cChn",
    "sEE7xcCho2EE+lcChikEEhijcChikEEhijcChikEEhijcChikEEhijcChjuEEhijcChikEEhijcChikEEhijcChi",
    "kEEhijcChikEEhijcChikEEhijcChjuEEhijcChikEEhijcChikEEhijcChikEEhijcChikEEhijcChikEEhjtcC",
    "hikEEhijcChikEEhijcChikEEhijcChikEEhijcChikEEhijcChjuEEhijcChikEEhijcChikEEhijcChikEEhij",
    "cChikEEhijcChikEEhijcChjuEEhijcChikEEhijcChikEEhijcChikEEhijcChikEEhijcChjuEEhijcChikEEh",
    "ijcChikEEhijcChikEEhijcChikEEhijcChikEEhijcChjuEEhijcChikEEhijcChikEEhijcChikEEhijcChikE",
    "EhijcChikEEhjtcChikEEhijcChikEEhijcChikEEhijcChikEEhijcChikEEhijcChjuEEhijcChikEEhijcChi",
    "kEEhijcChikEEhijcChikEEhijcChikEEhijcChjuEEhijcChikEEhijcChikEEhijcChikEEhijcChikEEhijcC",
    "hjuEEhijcChikEEhijcChikEEhijcChikEEhijcChikEEhijcChikEEhijcChjuEEhijcChikEEhijcChikEEhij",
    "cChikEEhijcChikEEhijcChikEEhjtcChikEEhijcChikEEhijcChikEEhijcChikEEhijcChikEEhijcChjuEEh",
    "ijcChikEEhijcChikEEhijcChikEEhijcChikEEhijcChikEEhijcChjuEEhijcChikEEhijcChikEEhijcChikE",
    "EhijcChikEEhijcChjuEEhijcChikEEhijcChikEEhijcChikEE"]),
  ("Australia/Melbourne",
    String.join ["Dij+QimqAitrAks9l9uPBhpng+2RCvyABh1gwACwqABhikAChikABhjuAChg6ABh7igAC2qABht+AC30ABhs0AC3",
    "0ABhs0AC30ABhs0AC4+ABhs0AC30ABhs0AC30ABhs0AC30ABhs0AC30ABhs0AC30ABhs0AC4+ABhs0AC30ABhs0A",
    "C30ABhs0AC30ABhs0AC6oABho2AC7yABho2AC88ABhqgAC6oABhqgAC6oABhqgAC30ABhs0AC30ABhs0AC4+ABhs",
    "0AC30ABhs0AC7yABho2AC88ABhnsAC88ABhnsAC88ABhnsAC88ABho2AC7yAB88AChnsABho2AC88ABhnsAC88AB",
    "hnsAC88ABho2AC7yABho2AC88ABhnsAC7yABho2AC+mABhikAChikABhikAChikABhikAChikABhikAChikABhju",
    "AChikABhikAChikABhikAChikABhikAChikABhikAChikABhikAChikABhjuAChikABhikAChikABhikAChikABh",
    "ikAChikABhikAChikABhikAChjuABhikAChikABhikAChikABhikAChikABhikAChikABhikAChikABhjuAChikA",
    "BhikAChikABhikAChikABhikAChikABhikAChikABhikAChikABhjuAChikABhikAChikABhikAChikABhikAChi",
    "kABhikAChikABhjuAChikABhikAChikABhikAChikABhikAChikABhikAChikABhikAChikABhjuAChikABhikAC",
    "hikABhikAChikABhikAChikABhikAChikABhikAChjuABhikAChikABhikAChikABhikAChikABhikAChikABhik",
    "AChikABhjuAChikABhikAChikABhikAChikABhikAChikABhikAChikABhikAChikABhjuAChikABhikAChikABh",
    "ikAChikABhikAChikABhikAChikABhjuAChikABhikAChikABhikAChikABhikAChikABhikAChikABhikAChikA",
    "BhjuAChikABhikAChikABhikAChikABhikAChikABhikAChikABhikAChjuABhikAChikABhikAChikABhikAChi",
    "kABhikAChikABhikAChikABhjuAChikABhikAChikABhikAChikABhikAChikABhikAChikABhikAChikABhjuAC",
    "hikABhikAChikABhikAChikABhikAChikABhikAChikABhjuAChikABhikAChikABhikAChikABhikAC"]),
  ("Australia/Perth",
    String.join ["Dh2pYh4oAh-pAkrrn0xXBhn1jj7ZCvyABh1gwACwqABhikAChikABijzgAC30AByxoAC30ABwv0ACz2AB-y0AC1g",
    "ABho2AC88ABhnsAC88AB"]),
  ("Australia/Sydney",
    String.join ["Dim8IimqAitrAks9mgsHBhpnhh0JCvyABh1gwACwqABhikAChikABhjuAChg6ABh7igAC2qABht+AC30ABhs0AC3",
    "0ABhs0AC30ABhs0AC4+ABhs0AC30ABhs0AC30ABhs0AC30ABhs0AC30ABhs0AC30ABhs0AC+mABhnsAC30ABhs0A",
    "C30ABhs0AC30ABhs0AC6oABho2AC7yABhqgAC7yABhqgAC6oABhqgAC30ABhs0AC30ABhs0AC30ABhs0AC4+ABhs",
    "0AC30ABhs0AC30ABhs0AC88ABhnsAC88ABhnsAC88ABhnsAC88ABho2AC7yAB88AChnsABho2AC88ABhnsAC88AB",
    "hnsAC88ABho2AC7yABho2AC88ABhnsAC7yABho2AC+mABhikAChikABhikAChikABhikAChikABhikAChikABhju",
    "AChikABhikAChikABhikAChikABhikAChikABhikAChikABhikAChikABhjuAChikABhikAChikABhikAChikABh",
    "ikAChikABhikAChikABhikAChjuABhikAChikABhikAChikABhikAChikABhikAChikABhikAChikABhjuAChikA",
    "BhikAChikABhikAChikABhikAChikABhikAChikABhikAChikABhjuAChikABhikAChikABhikAChikABhikAChi",
    "kABhikAChikABhjuAChikABhikAChikABhikAChikABhikAChikABhikAChikABhikAChikABhjuAChikABhikAC",
    "hikABhikAChikABhikAChikABhikAChikABhikAChjuABhikAChikABhikAChikABhikAChikABhikAChikABhik",
    "AChikABhjuAChikABhikAChikABhikAChikABhikAChikABhikAChikABhikAChikABhjuAChikABhikAChikABh",
    "ikAChikABhikAChikABhikAChikABhjuAChikABhikAChikABhikAChikABhikAChikABhikAChikABhikAChikA",
    "BhjuAChikABhikAChikABhikAChikABhikAChikABhikAChikABhikAChjuABhikAChikABhikAChikABhikAChi",
    "kABhikAChikABhikAChikABhjuAChikABhikAChikABhikAChikABhikAChikABhikAChikABhikAChikABhjuAC",
    "hikABhikAChikABhikAChikABhikAChikABhikAChikABhjuAChikABhikAChikABhikAChikABhikAC"]),
  ("Etc/GMT",
    "BA"),
  ("Etc/GMT+1",
    "Bngf"),
  ("Etc/GMT+10",
    "Bimpf"),
  ("Etc/GMT+11",
    "Bitqf"),
  ("Etc/GMT+12",
    "Bi0rf"),
  ("Etc/GMT+2",
    "Buhf"),
  ("Etc/GMT+3",
    "B1if"),
  ("Etc/GMT+4",
    "B8jf"),
  ("Etc/GMT+5",
    "Bhjkf"),
  ("Etc/GMT+6",
    "Bhqlf"),
  ("Etc/GMT+7",
    "Bhxmf"),
  ("Etc/GMT+8",
    "Bh4nf"),
  ("Etc/GMT+9",
    "Bh-of"),
  ("Etc/GMT-1",
    "BnhA"),
  ("Etc/GMT-10",
    "BimqA"),
  ("Etc/GMT-11",
    "BitrA"),
  ("Etc/GMT-12",
    "Bi0sA"),
  ("Etc/GMT-13",
    "Bi7tA"),
  ("Etc/GMT-14",
    "BjiuA"),
  ("Etc/GMT-2",
    "BuiA"),
  ("Etc/GMT-3",
    "B1jA"),
  ("Etc/GMT-4",
    "B8kA"),
  ("Etc/GMT-5",
    "BhjlA"),
  ("Etc/GMT-6",
    "BhqmA"),
  ("Etc/GMT-7",
    "BhxnA"),
  ("Etc/GMT-8",
    "Bh4oA"),
  ("Etc/GMT-9",
    "Bh-pA"),
  ("Etc/UTC",
    "BA"),
  ("Europe/Andorra",
    String.join ["E2YAnhAuiAkh5lmmXBi2hsz2ZCiys0IDhikAChikADhikAChikADhikAChikADhikAChikADhikAChikADhjuACh",
    "ikADhikAChikADhikAChikADhikAChikADhikAChikADhikAChjuADhnsAC88ADhnsAC88ADhnsAC88ADho2AC7y",
    "ADho2AC7yADho2AC88ADhnsAC88ADhnsAC88ADho2AC7yADho2AC7yADho2AC7yADho2AC88ADhnsAC88ADhnsAC",
    "88ADho2AC7yADho2AC7yADho2AC88ADhnsAC88ADhnsAC88ADhnsAC88ADho2AC7yADho2AC7yADho2AC88ADhns",
    "AC88ADhnsAC88ADho2AC7yADho2AC7yADho2AC88ADhnsAC88ADhnsAC88ADhnsAC88ADho2AC7yADho2AC7yADh",
    "o2AC88ADhnsAC88ADhnsAC88ADho2AC7yADho2AC7yADho2AC7yADho2AC88ADhnsAC88ADhnsAC88ADho2AC7yA",
    "Dho2AC7yADho2AC88ADhnsAC88ADhnsAC88ADhnsAC88ADho2AC7yADho2AC7yADho2AC88ADhnsAC88ADhnsAC8",
    "8ADho2AC7yADho2AC7yADho2AC88ADhnsAC88ADhnsAC88ADhnsAC88ADho2AC7yADho2AC7yADho2AC88ADhnsA",
    "C88ADhnsAC88ADho2AC7yADho2AC7yADho2AC7yADho2AC88ADhnsAC88ADhnsAC88ADho2AC7yADho2AC7yADho",
    "2AC88ADhnsAC88ADhnsAC88ADhnsAC88ADho2AC7yADho2AC7yADho2AC88ADhnsAC88ADhnsAC88ADho2AC7yAD",
    "ho2AC7yADho2AC88ADhnsAC88ADhnsAC88ADhnsAC88ADho2AC7yADho2AC7yADho2AC88ADhnsAC88ADhnsAC88",
    "ADho2AC7yADho2AC7yADho2AC7yADho2AC88ADhnsAC88ADhnsAC88ADho2AC7yADho2AC7yADho2AC88ADhnsAC",
    "88ADhnsAC88ADhnsAC"]),
  ("Europe/Astrakhan",
    String.join ["E2wY1jA8kAhjlAi18+9oXBrxvi9ZCjs1xYDhipYChikIDhipYChikIDhipYChiqIDhikQChikADhikAChikADhik",
    "AChikADhikAChikADhikACikoIBhikAChjuABhikACjmsABhikAChikABhikAChikABhikAChikABhjuAChnsAB8",
    "8AChnsAB88AChnsAB88ACho2AB7yACho2AB7yACho2AB88AChnsAB88AChnsAB88ACho2AB7yACho2AB7yACho2A",
    "B7yACho2AB88AChnsAB88AChnsAB88ACho2AB7yACn1tYBjhkIC"]),
  ("Europe/Athens",
    String.join ["ErjYuiA1jAnhAjkv-vnfB9-zkmBCqvYBys4ICkpYBjnrAD73QBhjnYDhiqIBx0rYC3nYBhwg4IChq4AB52QChikA",
    "Bhg6AChhgABhjoAChg6IBhjvQChh8ABhi1YChh3YBhilAChikABhikAChikABhikAChikABhikAChjuABhikAChi",
    "kABhikAChikABhikAChikABhikAChikABhikAChikABhikAChjuABhikAChikABhikAChikABhikAChikABhikAC",
    "hikABhikAChikABhjuAChnsAB88AChnsAB88AChnsAB88ACho2AB7yACho2AB7yACho2AB88AChnsAB88AChnsAB",
    "88ACho2AB7yACho2AB7yACho2AB7yACho2AB88AChnsAB88AChnsAB88ACho2AB7yACho2AB7yACho2AB88AChns",
    "AB88AChnsAB88AChnsAB88ACho2AB7yACho2AB7yACho2AB88AChnsAB88AChnsAB88ACho2AB7yACho2AB7yACh",
    "o2AB88AChnsAB88AChnsAB88AChnsAB88ACho2AB7yACho2AB7yACho2AB88AChnsAB88AChnsAB88ACho2AB7yA",
    "Cho2AB7yACho2AB7yACho2AB88AChnsAB88AChnsAB88ACho2AB7yACho2AB7yACho2AB88AChnsAB88AChnsAB8",
    "8AChnsAB88ACho2AB7yACho2AB7yACho2AB88AChnsAB88AChnsAB88ACho2AB7yACho2AB7yACho2AB88AChnsA",
    "B88AChnsAB88AChnsAB88ACho2AB7yACho2AB7yACho2AB88AChnsAB88AChnsAB88ACho2AB7yACho2AB7yACho",
    "2AB7yACho2AB88AChnsAB88AChnsAB88ACho2AB7yACho2AB7yACho2AB88AChnsAB88AChnsAB88AChnsAB88AC",
    "ho2AB7yACho2AB7yACho2AB88AChnsAB88AChnsAB88ACho2AB7yACho2AB7yACho2AB88AChnsAB88AChnsAB88",
    "AChnsAB88ACho2AB7yACho2AB7yACho2AB88AChnsAB88AChnsAB88ACho2AB7yACho2AB7yACho2AB7yACho2AB",
    "88AChnsAB88AChnsAB88ACho2AB7yACho2AB7yACho2AB88AChnsAB88AChnsAB88AChnsAB"]),
  ("Europe/Belgrade",
    String.join ["DpzQnhAuiAlh4sn7PBjr41i5RCjpsYB7yAChjuABhikAChikABho8AC4yABiwp8AChikABhikAChjuABhikAChik",
    "ABhikAChikABhikAChikABhikAChikABhikAChikABhikAChjuABhikAChikABhikAChikABhikAChikABhikACh",
    "ikABhikAChikABhjuAChnsAB88AChnsAB88AChnsAB88ACho2AB7yACho2AB7yACho2AB88AChnsAB88AChnsAB8",
    "8ACho2AB7yACho2AB7yACho2AB7yACho2AB88AChnsAB88AChnsAB88ACho2AB7yACho2AB7yACho2AB88AChnsA",
    "B88AChnsAB88AChnsAB88ACho2AB7yACho2AB7yACho2AB88AChnsAB88AChnsAB88ACho2AB7yACho2AB7yACho",
    "2AB88AChnsAB88AChnsAB88AChnsAB88ACho2AB7yACho2AB7yACho2AB88AChnsAB88AChnsAB88ACho2AB7yAC",
    "ho2AB7yACho2AB7yACho2AB88AChnsAB88AChnsAB88ACho2AB7yACho2AB7yACho2AB88AChnsAB88AChnsAB88",
    "AChnsAB88ACho2AB7yACho2AB7yACho2AB88AChnsAB88AChnsAB88ACho2AB7yACho2AB7yACho2AB88AChnsAB",
    "88AChnsAB88AChnsAB88ACho2AB7yACho2AB7yACho2AB88AChnsAB88AChnsAB88ACho2AB7yACho2AB7yACho2",
    "AB7yACho2AB88AChnsAB88AChnsAB88ACho2AB7yACho2AB7yACho2AB88AChnsAB88AChnsAB88AChnsAB88ACh",
    "o2AB7yACho2AB7yACho2AB88AChnsAB88AChnsAB88ACho2AB7yACho2AB7yACho2AB88AChnsAB88AChnsAB88A",
    "ChnsAB88ACho2AB7yACho2AB7yACho2AB88AChnsAB88AChnsAB88ACho2AB7yACho2AB7yACho2AB7yACho2AB8",
    "8AChnsAB88AChnsAB88ACho2AB7yACho2AB7yACho2AB88AChnsAB88AChnsAB88AChnsAB"]),
  ("Europe/Berlin",
    String.join ["EmoQnhAuiA1jAkwr2vgPBhrtm62RC82IBhk+QC88ABhnsAC88ABhujoAClxmAB7yAChjuABhikAChikABhikACp3",
    "YD3iACqqIB7yAChhgABhh+ICmxYDplYCysIBhk4AC-wABhjuAChg6ABihpwAChg6ABhikAChikABhikAChikABhi",
    "kAChikABhikAChjuABhikAChikABhikAChikABhikAChikABhikAChikABhikAChikABhikAChjuABhikAChikAB",
    "hikAChikABhikAChikABhikAChikABhikAChikABhjuAChnsAB88AChnsAB88AChnsAB88ACho2AB7yACho2AB7y",
    "ACho2AB88AChnsAB88AChnsAB88ACho2AB7yACho2AB7yACho2AB7yACho2AB88AChnsAB88AChnsAB88ACho2AB",
    "7yACho2AB7yACho2AB88AChnsAB88AChnsAB88AChnsAB88ACho2AB7yACho2AB7yACho2AB88AChnsAB88AChns",
    "AB88ACho2AB7yACho2AB7yACho2AB88AChnsAB88AChnsAB88AChnsAB88ACho2AB7yACho2AB7yACho2AB88ACh",
    "nsAB88AChnsAB88ACho2AB7yACho2AB7yACho2AB7yACho2AB88AChnsAB88AChnsAB88ACho2AB7yACho2AB7yA",
    "Cho2AB88AChnsAB88AChnsAB88AChnsAB88ACho2AB7yACho2AB7yACho2AB88AChnsAB88AChnsAB88ACho2AB7",
    "yACho2AB7yACho2AB88AChnsAB88AChnsAB88AChnsAB88ACho2AB7yACho2AB7yACho2AB88AChnsAB88AChnsA",
    "B88ACho2AB7yACho2AB7yACho2AB7yACho2AB88AChnsAB88AChnsAB88ACho2AB7yACho2AB7yACho2AB88AChn",
    "sAB88AChnsAB88AChnsAB88ACho2AB7yACho2AB7yACho2AB88AChnsAB88AChnsAB88ACho2AB7yACho2AB7yAC",
    "ho2AB88AChnsAB88AChnsAB88AChnsAB88ACho2AB7yACho2AB7yACho2AB88AChnsAB88AChnsAB88ACho2AB7y",
    "ACho2AB7yACho2AB7yACho2AB88AChnsAB88AChnsAB88ACho2AB7yACho2AB7yACho2AB88AChnsAB88AChnsAB",
    "88AChnsAB"]),
  ("Europe/Brussels",
    String.join ["EihUAnhAuiAkyi87-fBhwmmACjlnYD82AChk+QD88AChnsAD88ACqyQB03ACho2AB4+AChvoAB60AChqmAB8qACh",
    "k4ABhk4AC-wABhg6AChjuABhikAChikABhk4AC-wABhjuAChg6ABhk4AChg6YBhk4AC-wABhjuAChg6ABhk4AC-w",
    "ABhikAChikABhg6AChk4ABhikAChikABhg6AChjuABhk4AC-wABhikAChikABhg6AChjuABhk4ACho2ABysACv+A",
    "Dln-YC7yADhjuAChikAD-qAChk+AD-qACht+AD6uACihogADhg6AChjuADhikAChikADhikAChjuADhg6AChikAD",
    "hikAChikADhikAChikADhikAChikADhjuAChikADhikAChikADhikAChikADhikAChikADhikAChikADhikAChik",
    "ADhjuAChikADhikAChikADhikAChikADhikAChikADhikAChikADhikAChjuADhnsAC88ADhnsAC88ADhnsAC88A",
    "Dho2AC7yADho2AC7yADho2AC88ADhnsAC88ADhnsAC88ADho2AC7yADho2AC7yADho2AC7yADho2AC88ADhnsAC8",
    "8ADhnsAC88ADho2AC7yADho2AC7yADho2AC88ADhnsAC88ADhnsAC88ADhnsAC88ADho2AC7yADho2AC7yADho2A",
    "C88ADhnsAC88ADhnsAC88ADho2AC7yADho2AC7yADho2AC88ADhnsAC88ADhnsAC88ADhnsAC88ADho2AC7yADho",
    "2AC7yADho2AC88ADhnsAC88ADhnsAC88ADho2AC7yADho2AC7yADho2AC7yADho2AC88ADhnsAC88ADhnsAC88AD",
    "ho2AC7yADho2AC7yADho2AC88ADhnsAC88ADhnsAC88ADhnsAC88ADho2AC7yADho2AC7yADho2AC88ADhnsAC88",
    "ADhnsAC88ADho2AC7yADho2AC7yADho2AC88ADhnsAC88ADhnsAC88ADhnsAC88ADho2AC7yADho2AC7yADho2AC",
    "88ADhnsAC88ADhnsAC88ADho2AC7yADho2AC7yADho2AC7yADho2AC88ADhnsAC88ADhnsAC88ADho2AC7yADho2",
    "AC7yADho2AC88ADhnsAC88ADhnsAC88ADhnsAC88ADho2AC7yADho2AC7yADho2AC88ADhnsAC88ADhnsAC88ADh",
    "o2AC7yADho2AC7yADho2AC88ADhnsAC88ADhnsAC88ADhnsAC88ADho2AC7yADho2AC7yADho2AC88ADhnsAC88A",
    "DhnsAC88ADho2AC7yADho2AC7yADho2AC7yADho2AC88ADhnsAC88ADhnsAC88ADho2AC7yADho2AC7yADho2AC8",
    "8ADhnsAC88ADhnsAC88ADhnsAC"]),
  ("Europe/Bucharest",
    String.join ["DsnQuiA1jAiop82-PBhx4w1RC5kABhikAChikABhjuAChikABhikAChikABhikAChikABhikAChikABhikAChikA",
    "BhikAChikABi07yAC3zYBhjuAChg6IBhikQChikABhikAChikABhikAChikABhikAChjuABhikAChikABhikAChi",
    "kABhikAChikABhikAChikABhikAChikABhikAChjuABhijQChikABhikAChikABhikAChikABhikAChijYBhikIC",
    "hijYBhjuIChnrYB89AChnsAB88AChnsAB88ACho2AB7yACho2AB7yACho2AB88AChnsAB88AChnsAB88ACho2AB7",
    "yACho2AB7yACho2AB7yACho2AB88AChnsAB88AChnsAB88ACho2AB7yACho2AB7yACho2AB88AChnsAB88AChnsA",
    "B88AChnsAB88ACho2AB7yACho2AB7yACho2AB88AChnsAB88AChnsAB88ACho2AB7yACho2AB7yACho2AB88AChn",
    "sAB88AChnsAB88AChnsAB88ACho2AB7yACho2AB7yACho2AB88AChnsAB88AChnsAB88ACho2AB7yACho2AB7yAC",
    "ho2AB7yACho2AB88AChnsAB88AChnsAB88ACho2AB7yACho2AB7yACho2AB88AChnsAB88AChnsAB88AChnsAB88",
    "ACho2AB7yACho2AB7yACho2AB88AChnsAB88AChnsAB88ACho2AB7yACho2AB7yACho2AB88AChnsAB88AChnsAB",
    "88AChnsAB88ACho2AB7yACho2AB7yACho2AB88AChnsAB88AChnsAB88ACho2AB7yACho2AB7yACho2AB7yACho2",
    "AB88AChnsAB88AChnsAB88ACho2AB7yACho2AB7yACho2AB88AChnsAB88AChnsAB88AChnsAB88ACho2AB7yACh",
    "o2AB7yACho2AB88AChnsAB88AChnsAB88ACho2AB7yACho2AB7yACho2AB88AChnsAB88AChnsAB88AChnsAB88A",
    "Cho2AB7yACho2AB7yACho2AB88AChnsAB88AChnsAB88ACho2AB7yACho2AB7yACho2AB7yACho2AB88AChnsAB8",
    "8AChnsAB88ACho2AB7yACho2AB7yACho2AB88AChnsAB88AChnsAB88AChnsAB"]),
  ("Europe/Budapest",
    String.join ["Do+InhAuiAk09h3mHBhv+yi8JC82IBhk+QC88ABhnsAC88ABhnyAC82ABhmiAC-wABhr-lICjruYB7yAChjuABhi",
    "kAChikABhn3IChiqIB8kQChjzYBhh+IChikABhikAChikABhjuAChg6ABp9zQC49YBhrqYC4+ABht+AC2qABht+A",
    "C2qABhwmlQChg6ABhikAChikABhikAChikABhikAChikABhikQChjuABhikAChikABhikAChikABhikAChikABhi",
    "kAChikABhikAChikABhikAChjuABhikAChikABhikAChikABhikAChikABhikAChikABhikAChikABhjuAChnsAB",
    "88AChnsAB88AChnsAB88ACho2AB7yACho2AB7yACho2AB88AChnsAB88AChnsAB88ACho2AB7yACho2AB7yACho2",
    "AB7yACho2AB88AChnsAB88AChnsAB88ACho2AB7yACho2AB7yACho2AB88AChnsAB88AChnsAB88AChnsAB88ACh",
    "o2AB7yACho2AB7yACho2AB88AChnsAB88AChnsAB88ACho2AB7yACho2AB7yACho2AB88AChnsAB88AChnsAB88A",
    "ChnsAB88ACho2AB7yACho2AB7yACho2AB88AChnsAB88AChnsAB88ACho2AB7yACho2AB7yACho2AB7yACho2AB8",
    "8AChnsAB88AChnsAB88ACho2AB7yACho2AB7yACho2AB88AChnsAB88AChnsAB88AChnsAB88ACho2AB7yACho2A",
    "B7yACho2AB88AChnsAB88AChnsAB88ACho2AB7yACho2AB7yACho2AB88AChnsAB88AChnsAB88AChnsAB88ACho",
    "2AB7yACho2AB7yACho2AB88AChnsAB88AChnsAB88ACho2AB7yACho2AB7yACho2AB7yACho2AB88AChnsAB88AC",
    "hnsAB88ACho2AB7yACho2AB7yACho2AB88AChnsAB88AChnsAB88AChnsAB88ACho2AB7yACho2AB7yACho2AB88",
    "AChnsAB88AChnsAB88ACho2AB7yACho2AB7yACho2AB88AChnsAB88AChnsAB88AChnsAB88ACho2AB7yACho2AB",
    "7yACho2AB88AChnsAB88AChnsAB88ACho2AB7yACho2AB7yACho2AB7yACho2AB88AChnsAB88AChnsAB88ACho2",
    "AB7yACho2AB7yACho2AB88AChnsAB88AChnsAB88AChnsAB"]),
  ("Europe/Chisinau",
    String.join ["HtwQtvIsnQuiA1jAnhA8kAlppk7wPBin2zrhJC5o05vZDhx4w1RE5kADhikAEhikADhjuAEhikADhikAEhikADhi",
    "kAEhikADhikAEhikADhikAEhikADhikAEhikADh76AEh+-YDi43AF7yADhjuAFhikAD65IEiuq1YGhipYEhikIGh",
    "ipYEhikIGhipYEhiqIGhikQEhikAGhikAEhikAGhikAEhikAGhikAEhikAGhikAEhikAGhikAEhikAGn7YE7yQDh",
    "ikAEhikADhijQEhijYDhikIEhijYDhikIEhijYDhikIEhijYDhjuIEhnrYD88YEhnsAD88AEhnsAD88AEho2AD7y",
    "AEho2AD7yAEho2AD88AEhnsAD88AEhnsAD88AEho2AD7yAEho2AD7yAEho2AD7yAEho2AD88AEhnsAD88AEhnsAD",
    "88AEho2AD7yAEho2AD7yAEho2AD88AEhnsAD88AEhnsAD88AEhnsAD88AEho2AD7yAEho2AD7yAEho2AD88AEhns",
    "AD88AEhnsAD88AEho2AD7yAEho2AD7yAEho2AD88AEhnsAD88AEhnsAD88AEhnsAD88AEho2AD7yAEho2AD7yAEh",
    "o2AD88AEhnsAD88AEhnsAD88AEho2AD7yAEho2AD7yAEho2AD7yAEho2AD88AEhnsAD88AEhnsAD88AEho2AD7yA",
    "Eho2AD7yAEho2AD88AEhnsAD88AEhnsAD88AEhnsAD88AEho2AD7yAEho2AD7yAEho2AD88AEhnsAD88AEhnsAD8",
    "8AEho2AD7yAEho2AD7yAEho2AD88AEhnsAD88AEhnsAD88AEhnsAD88AEho2AD7yAEho2AD7yAEho2AD88AEhnsA",
    "D88AEhnsAD88AEho2AD7yAEho2AD7yAEho2AD7yAEho2AD88AEhnsAD88AEhnsAD88AEho2AD7yAEho2AD7yAEho",
    "2AD88AEhnsAD88AEhnsAD88AEhnsAD88AEho2AD7yAEho2AD7yAEho2AD88AEhnsAD88AEhnsAD88AEho2AD7yAE",
    "ho2AD7yAEho2AD88AEhnsAD88AEhnsAD88AEhnsAD88AEho2AD7yAEho2AD7yAEho2AD88AEhnsAD88AEhnsAD88",
    "AEho2AD7yAEho2AD7yAEho2AD7yAEho2AD88AEhnsAD88AEhnsAD88AEho2AD7yAEho2AD7yAEho2AD88AEhnsAD",
    "88AEhnsAD88AEhnsAD"]),
  ("Europe/Dublin",
    String.join ["Ei-BkheAnhAjk7lmmdB4+AC-ky4fD+sAChjoADhj0AChh+ADhiqAChh+ADhnyAC+gADhiqAChg0ADhk4AChk4AD7",
    "yAChnsAD+mAChnsAD-wAChk4AD-wAChjuADhg6AChmiAD-wAChk4AD-wAChjuADhg6AChk4AD-wAChk4AD-wAChj",
    "uADhikAChk4AD-wAChjuADhg6AChk4AD-wAChk4AD-wAChjuADhg6AChk4ADho2ACysADuk6AC+mADhrqAC-wADh",
    "k4AC88ADhnsAC-wADhjuAChg6ADhjuAChikADhjuAChg6AD-wAChjuADhg6AChk4AD-wAChmiAD-wAChjuADhg6A",
    "Chk4AD-wAChk4AD-wAChjuADhg6AChg6ADho2AC7yADho2AC88ADhnsAC7yADho2AC7yADho2AC7yADho2AC7yAD",
    "hqgAC1gADn9qAC6oADhqgAC6oADhqgAC6oADhqgAC6oADhqgAC7yADho2AC7yADho2AC7yADhqgAC6oADhqgAC6o",
    "ADhqgAC87YDhnsAC88ADhnsAC88ADhnsAC88ADho2AC88ADhnsAC88ADhnsAC88ADhnsAC88ADhnsAC88ADho2AC",
    "7yADho2AC88ADhnsAC88ADhnsAC88ADhnsAC88ADhnsAC88ADhnsAC+mADhnsAC88ADhnsAC88ADhnsAC88ADho2",
    "AC7yADho2AC7yADho2AC88ADhnsAC88ADhnsAC88ADho2AC7yADho2AC7yADho2AC7yADho2AC88ADhnsAC88ADh",
    "nsAC88ADho2AC7yADho2AC7yADho2AC88ADhnsAC88ADhnsAC88ADhnsAC88ADho2AC7yADho2AC7yADho2AC88A",
    "DhnsAC88ADhnsAC88ADho2AC7yADho2AC7yADho2AC88ADhnsAC88ADhnsAC88ADhnsAC88ADho2AC7yADho2AC7",
    "yADho2AC88ADhnsAC88ADhnsAC88ADho2AC7yADho2AC7yADho2AC7yADho2AC88ADhnsAC88ADhnsAC88ADho2A",
    "C7yADho2AC7yADho2AC88ADhnsAC88ADhnsAC88ADhnsAC88ADho2AC7yADho2AC7yADho2AC88ADhnsAC88ADhn",
    "sAC88ADho2AC7yADho2AC7yADho2AC88ADhnsAC88ADhnsAC88ADhnsAC88ADho2AC7yADho2AC7yADho2AC88AD",
    "hnsAC88ADhnsAC88ADho2AC7yADho2AC7yADho2AC7yADho2AC88ADhnsAC88ADhnsAC88ADho2AC7yADho2AC7y",
    "ADho2AC88ADhnsAC88ADhnsAC88ADhnsAC88ADho2AC7yADho2AC7yADho2AC88ADhnsAC88ADhnsAC88ADho2AC",
    "7yADho2AC7yADho2AC88ADhnsAC88ADhnsAC88ADhnsAC88ADho2AC7yADho2AC7yADho2AC88ADhnsAC88ADhns",
    "AC88ADho2AC7yADho2AC7yADho2AC7yADho2AC88ADhnsAC88ADhnsAC88ADho2AC7yADho2AC7yADho2AC88ADh",
    "nsAC88ADhnsAC88ADhnsAC"]),
  ("Europe/Gibraltar",
    String.join ["EiwHAnhAuiAlol76-XBijq2x5ZC4+ABhjuAC+sABhjoAChj0ABhh+AChiqABhh+AChnyAB+gAChiqABhg0AChk4A",
    "Bhk4AC7yABhnsAC+mABhnsAC-wABhk4AC-wABhjuAChg6ABhmiAC-wABhk4AC-wABhjuAChg6ABhk4AC-wABhk4A",
    "C-wABhjuAChikABhk4AC-wABhjuAChg6ABhk4AC-wABhk4AC-wABhjuAChg6ABhk4ACho2ABysACixrYDysAChs0",
    "AD30AChs0AD4+AChrqAD-wAChk+ADzwACv4IBhjuAChg6AB+mAClnYD2qACv4IB4+AChrqAB88AChnsAB-wAChju",
    "ABhg6AChjuABhikAChjuABhg6AC-wABhjuAChg6ABhk4AC-wABhmiAC-wABhjuACh1s7YDhikAChikADhikAChik",
    "ADhjuAChikADhikAChikADhikAChikADhikAChikADhikAChikADhikAChikADhjuAChikADhikAChikADhikACh",
    "ikADhikAChikADhikAChikADhikAChjuADhnsAC88ADhnsAC88ADhnsAC88ADho2AC7yADho2AC7yADho2AC88AD",
    "hnsAC88ADhnsAC88ADho2AC7yADho2AC7yADho2AC7yADho2AC88ADhnsAC88ADhnsAC88ADho2AC7yADho2AC7y",
    "ADho2AC88ADhnsAC88ADhnsAC88ADhnsAC88ADho2AC7yADho2AC7yADho2AC88ADhnsAC88ADhnsAC88ADho2AC",
    "7yADho2AC7yADho2AC88ADhnsAC88ADhnsAC88ADhnsAC88ADho2AC7yADho2AC7yADho2AC88ADhnsAC88ADhns",
    "AC88ADho2AC7yADho2AC7yADho2AC7yADho2AC88ADhnsAC88ADhnsAC88ADho2AC7yADho2AC7yADho2AC88ADh",
    "nsAC88ADhnsAC88ADhnsAC88ADho2AC7yADho2AC7yADho2AC88ADhnsAC88ADhnsAC88ADho2AC7yADho2AC7yA",
    "Dho2AC88ADhnsAC88ADhnsAC88ADhnsAC88ADho2AC7yADho2AC7yADho2AC88ADhnsAC88ADhnsAC88ADho2AC7",
    "yADho2AC7yADho2AC7yADho2AC88ADhnsAC88ADhnsAC88ADho2AC7yADho2AC7yADho2AC88ADhnsAC88ADhnsA",
    "C88ADhnsAC88ADho2AC7yADho2AC7yADho2AC88ADhnsAC88ADhnsAC88ADho2AC7yADho2AC7yADho2AC88ADhn",
    "sAC88ADhnsAC88ADhnsAC88ADho2AC7yADho2AC7yADho2AC88ADhnsAC88ADhnsAC88ADho2AC7yADho2AC7yAD",
    "ho2AC7yADho2AC88ADhnsAC88ADhnsAC88ADho2AC7yADho2AC7yADho2AC88ADhnsAC88ADhnsAC88ADhnsAC"]),
  ("Europe/Helsinki",
    String.join ["Dr2KuiA1jAi7xyouJBhnrrxkLChiwABiyrwQChikABhikAChikABhikIChikABhikAChjuABhikAChikABhikACh",
    "ikABhikAChikABhikAChikABhikAChikABhikAChjuABhikAChikABhikAChikABhikAChikABhikAChikABhikA",
    "ChikABhjuAChnsAB88AChnsAB88AChnsAB88ACho2AB7yACho2AB7yACho2AB88AChnsAB88AChnsAB88ACho2AB",
    "7yACho2AB7yACho2AB7yACho2AB88AChnsAB88AChnsAB88ACho2AB7yACho2AB7yACho2AB88AChnsAB88AChns",
    "AB88AChnsAB88ACho2AB7yACho2AB7yACho2AB88AChnsAB88AChnsAB88ACho2AB7yACho2AB7yACho2AB88ACh",
    "nsAB88AChnsAB88AChnsAB88ACho2AB7yACho2AB7yACho2AB88AChnsAB88AChnsAB88ACho2AB7yACho2AB7yA",
    "Cho2AB7yACho2AB88AChnsAB88AChnsAB88ACho2AB7yACho2AB7yACho2AB88AChnsAB88AChnsAB88AChnsAB8",
    "8ACho2AB7yACho2AB7yACho2AB88AChnsAB88AChnsAB88ACho2AB7yACho2AB7yACho2AB88AChnsAB88AChnsA",
    "B88AChnsAB88ACho2AB7yACho2AB7yACho2AB88AChnsAB88AChnsAB88ACho2AB7yACho2AB7yACho2AB7yACho",
    "2AB88AChnsAB88AChnsAB88ACho2AB7yACho2AB7yACho2AB88AChnsAB88AChnsAB88AChnsAB88ACho2AB7yAC",
    "ho2AB7yACho2AB88AChnsAB88AChnsAB88ACho2AB7yACho2AB7yACho2AB88AChnsAB88AChnsAB88AChnsAB88",
    "ACho2AB7yACho2AB7yACho2AB88AChnsAB88AChnsAB88ACho2AB7yACho2AB7yACho2AB7yACho2AB88AChnsAB",
    "88AChnsAB88ACho2AB7yACho2AB7yACho2AB88AChnsAB88AChnsAB88AChnsAB"]),
  ("Europe/Istanbul",
    String.join ["FtyQt2QuiA1jA8kAlppk7yPBh5602sBCqwgw8RD81YCnu8IDhnxYC+gIDhipYChg0IDhk3YCjtqID6tYChn4ID81",
    "YC-yiIDylYCqwIDh3jYChkgIDnxjYChsoID27YChl2ID-vYChk4ID-vYChjuIDhg5YChk4IDhg5YChk4ID-vYC3h",
    "0IDi4vYChlkID6hYCyx6QD88AC7yIDho1YC6iIDhqlYC6oIDhp-YC88IDhk3YC-wIDrs7YEr5YDiqoIC-8AD+mAC",
    "hiqADhikAChikADhikAChikADhikAChikADhikAChikADhjuAChikADhikAChikADhikAChikADhikAChg6ADhju",
    "AChikADhikAChjuADhnsAC88ADhnsAC88ADhnsAC88ADho2AC7yADho2AC7yADho2AC88ADhnsAC88ADhnsAC88A",
    "Dho2AC7yADho2AC7yADho2AC7yQDho2AC88ADhnsAC88ADhnsAC88ADho2AC74ADhowAC7yADho2AC88ADhnsAC9",
    "iADhnmAC88ADhqgAC6oAD"]),
  ("Europe/Kaliningrad",
    String.join ["FpzQnhAuiA1jA8kAkwr2yrPBhrtm+hRC82IBhk+QC88ABhnsAC88ABhujoAClxmAB7yAChjuABhikAChikABhikA",
    "ClhIDhi7YC9uIDiq77YEhipYDhikIEhipYDhikIEhipYDhiqIEhikQDhikAEhikADhikAEhikADhikAEhikADhik",
    "AEhikADikoIChikADhjuAChikADhikAChikADhikAChikADhikAChikADhikAChikADhikAChjuADhnsAC88ADhn",
    "sAC88ADhnsAC88ADho2AC7yADho2AC7yADho2AC88ADhnsAC88ADhnsAC88ADho2AC7yADho2AC7yADho2AC7yAD",
    "ho2AC88ADhnsAC88ADhnsAC88ADho2AC7yADn1tYC"]),
  ("Europe/Kirov",
    String.join ["E3pQ1jA8kAhjlAi+--jnfB3vvICjs1xYDhipYChikIDhipYChikIDhipYChiqIDhikQChikADhikAChikADhikAC",
    "hikADhikAChikADhikACikoIBhikAChjuABhikACjmsABhikAChikABhikAChikABhikAChikABhjuAChnsAB88A",
    "ChnsAB88AChnsAB88ACho2AB7yACho2AB7yACho2AB88AChnsAB88AChnsAB88ACho2AB7yACho2AB7yACho2AB7",
    "yACho2AB88AChnsAB88AChnsAB88ACho2AB7yACn1tYB"]),
  ("Europe/Kyiv",
    String.join ["FupYuiA1jAnhA8kAi185spXBrxp4-ZC4itYBisxAD7yABhjuADmlQCiwhtQEhipYChikIEhipYChikIEhipYChiq",
    "IEhikQChikAEhikAChikAEhikAChikAEhikAChikAEhikAChikAEhikAChikAEyrYCi1qQBhikAChikABhikAChi",
    "kABhikAChikABhikAChikABhjuAChnsIB88AChnsAB88AChnsAB88ACho2AB7yACho2AB7yACho2AB88AChnsAB8",
    "8AChnsAB88ACho2AB7yACho2AB7yACho2AB7yACho2AB88AChnsAB88AChnsAB88ACho2AB7yACho2AB7yACho2A",
    "B88AChnsAB88AChnsAB88AChnsAB88ACho2AB7yACho2AB7yACho2AB88AChnsAB88AChnsAB88ACho2AB7yACho",
    "2AB7yACho2AB88AChnsAB88AChnsAB88AChnsAB88ACho2AB7yACho2AB7yACho2AB88AChnsAB88AChnsAB88AC",
    "ho2AB7yACho2AB7yACho2AB7yACho2AB88AChnsAB88AChnsAB88ACho2AB7yACho2AB7yACho2AB88AChnsAB88",
    "AChnsAB88AChnsAB88ACho2AB7yACho2AB7yACho2AB88AChnsAB88AChnsAB88ACho2AB7yACho2AB7yACho2AB",
    "88AChnsAB88AChnsAB88AChnsAB88ACho2AB7yACho2AB7yACho2AB88AChnsAB88AChnsAB88ACho2AB7yACho2",
    "AB7yACho2AB7yACho2AB88AChnsAB88AChnsAB88ACho2AB7yACho2AB7yACho2AB88AChnsAB88AChnsAB88ACh",
    "nsAB88ACho2AB7yACho2AB7yACho2AB88AChnsAB88AChnsAB88ACho2AB7yACho2AB7yACho2AB88AChnsAB88A",
    "ChnsAB88AChnsAB88ACho2AB7yACho2AB7yACho2AB88AChnsAB88AChnsAB88ACho2AB7yACho2AB7yACho2AB7",
    "yACho2AB88AChnsAB88AChnsAB88ACho2AB7yACho2AB7yACho2AB88AChnsAB88AChnsAB88AChnsAB"]),
  ("Europe/Lisbon",
    String.join ["EkpZAnhAuiAjtjl43fBpxzYC5wIB2wAChq3YB52IChq3YB52IChq3YB58IChq3YB52IChq3YBlryAChgiABjpgAC",
    "-wABhjuAChg6ABhk4AChg6ABhk4AC-wABjpgAC-wABhikAChikABjn2AChikABhg6AChjuABhk4AC-wABhikAChi",
    "kABhg6AChjuABhk4ACho2ABysAChqsABhh4AChiqAB+gACn7YD1gACtkIB6oACmxYD4+ACr6IB4+ACn7YD30ACr6",
    "IB4+ACn7YD30ACr6IB+mAChikABhikYChikABhikAChikABhikAChikABhikAChikABhikAChjuABhikAChikABh",
    "ikAChikABhikAChikABhikAChikABhikAChjuABhikAChikABhikAChikABhikAChikABhikAChikABhikAChikA",
    "BhikAChjuABhikAChikABhikAChikABhikAChikABhikAC2t9QBhikAChikABhjuIChikABhikAChikABhjuAChg",
    "6ABhijYChikABhikAChikABhikAChikABhikAChjuABhikAChikABhikIChikABhikAChikABhikAChikABhikAC",
    "hikABhikAChjuABhikAChikABhikACikoADhikAChikADhikAChikADhikACiq6AB88AChnsAB88AChnsAB88ACh",
    "o2AB7yACho2AB7yACho2AB88AChnsAB88AChnsAB88ACho2AB7yACho2AB7yACho2AB7yACho2AB88AChnsAB88A",
    "ChnsAB88ACho2AB7yACho2AB7yACho2AB88AChnsAB88AChnsAB88AChnsAB88ACho2AB7yACho2AB7yACho2AB8",
    "8AChnsAB88AChnsAB88ACho2AB7yACho2AB7yACho2AB88AChnsAB88AChnsAB88AChnsAB88ACho2AB7yACho2A",
    "B7yACho2AB88AChnsAB88AChnsAB88ACho2AB7yACho2AB7yACho2AB7yACho2AB88AChnsAB88AChnsAB88ACho",
    "2AB7yACho2AB7yACho2AB88AChnsAB88AChnsAB88AChnsAB88ACho2AB7yACho2AB7yACho2AB88AChnsAB88AC",
    "hnsAB88ACho2AB7yACho2AB7yACho2AB88AChnsAB88AChnsAB88AChnsAB88ACho2AB7yACho2AB7yACho2AB88",
    "AChnsAB88AChnsAB88ACho2AB7yACho2AB7yACho2AB7yACho2AB88AChnsAB88AChnsAB88ACho2AB7yACho2AB",
    "7yACho2AB88AChnsAB88AChnsAB88AChnsAB88ACho2AB7yACho2AB7yACho2AB88AChnsAB88AChnsAB88ACho2",
    "AB7yACho2AB7yACho2AB88AChnsAB88AChnsAB88AChnsAB88ACho2AB7yACho2AB7yACho2AB88AChnsAB88ACh",
    "nsAB88ACho2AB7yACho2AB7yACho2AB7yACho2AB88AChnsAB88AChnsAB88ACho2AB7yACho2AB7yACho2AB88A",
    "ChnsAB88AChnsAB88AChnsAB"]),
  ("Europe/London",
    String.join ["EkVAnhAuiAnl0r7jJBkg5mx9LC4+ABhjuAC+sABhjoAChj0ABhh+AChiqABhh+AChnyAB+gAChiqABhg0AChk4AB",
    "hk4AC7yABhnsAC+mABhnsAC-wABhk4AC-wABhjuAChg6ABhmiAC-wABhk4AC-wABhjuAChg6ABhk4AC-wABhk4AC",
    "-wABhjuAChikABhk4AC-wABhjuAChg6ABhk4AC-wABhk4AC-wABhjuAChg6ABhk4ACho2ABysACixrYDysAChs0A",
    "D30AChs0AD4+AChrqAD-wAChk+ADzwACv4IBhjuAChg6AB+mAClnYD2qACv4IB4+AChrqAB88AChnsAB-wAChjuA",
    "Bhg6AChjuABhikAChjuABhg6AC-wABhjuAChg6ABhk4AC-wABhmiAC-wABhjuAChg6ABhk4AC-wABhk4AC-wABhj",
    "uAChg6ABhg6ACho2AB7yACho2AB88AChnsAB7yACho2AB7yACho2AB7yACho2AB7yAChqgAB1gACn9qAB6oAChqg",
    "AB6oAChqgAB6oAChqgAB6oAChqgAB7yACho2AB7yACho2AB7yAChqgAB6oAChqgAB6oAChqgAB87YChnsAB88ACh",
    "nsAB88AChnsAB88ACho2AB88AChnsAB88AChnsAB88AChnsAB88AChnsAB88ACho2AB7yACho2AB88AChnsAB88A",
    "ChnsAB88AChnsAB88AChnsAB88AChnsAB+mAChnsAB88AChnsAB88AChnsAB88ACho2AB7yACho2AB7yACho2AB8",
    "8AChnsAB88AChnsAB88ACho2AB7yACho2AB7yACho2AB7yACho2AB88AChnsAB88AChnsAB88ACho2AB7yACho2A",
    "B7yACho2AB88AChnsAB88AChnsAB88AChnsAB88ACho2AB7yACho2AB7yACho2AB88AChnsAB88AChnsAB88ACho",
    "2AB7yACho2AB7yACho2AB88AChnsAB88AChnsAB88AChnsAB88ACho2AB7yACho2AB7yACho2AB88AChnsAB88AC",
    "hnsAB88ACho2AB7yACho2AB7yACho2AB7yACho2AB88AChnsAB88AChnsAB88ACho2AB7yACho2AB7yACho2AB88",
    "AChnsAB88AChnsAB88AChnsAB88ACho2AB7yACho2AB7yACho2AB88AChnsAB88AChnsAB88ACho2AB7yACho2AB",
    "7yACho2AB88AChnsAB88AChnsAB88AChnsAB88ACho2AB7yACho2AB7yACho2AB88AChnsAB88AChnsAB88ACho2",
    "AB7yACho2AB7yACho2AB7yACho2AB88AChnsAB88AChnsAB88ACho2AB7yACho2AB7yACho2AB88AChnsAB88ACh",
    "nsAB88AChnsAB88ACho2AB7yACho2AB7yACho2AB88AChnsAB88AChnsAB88ACho2AB7yACho2AB7yACho2AB88A",
    "ChnsAB88AChnsAB88AChnsAB88ACho2AB7yACho2AB7yACho2AB88AChnsAB88AChnsAB88ACho2AB7yACho2AB7",
    "yACho2AB7yACho2AB88AChnsAB88AChnsAB88ACho2AB7yACho2AB7yACho2AB88AChnsAB88AChnsAB88AChnsA",
    "B"]),
  ("Europe/Madrid",
    String.join ["Eh3HAnhAuiAkh5llvfBhk-7YChg0IBhijYChiqIBp2jYChgiIBjo-YC-wIBhjtYChg6IBhk4AChg6ABhk3YC-wIB",
    "wvhYC0oIBhijYClnYD9iACilsQB+lYCkx1YD22IChq9YD-wIChk3YD-wIChk3YD-wIChk3YD-wIClxlYD88ICh0v",
    "-YDhg6IChjtYDhg6IChg5YDhikIChjtYDhg6IChjuQDhikAChikADhikAChjuADhg6AChikADhikAChikADhikAC",
    "hikADhikAChikADhjuAChikADhikAChikADhikAChikADhikAChikADhikAChikADhikAChikADhjuAChikADhik",
    "AChikADhikAChikADhikAChikADhikAChikADhikAChjuADhnsAC88ADhnsAC88ADhnsAC88ADho2AC7yADho2AC",
    "7yADho2AC88ADhnsAC88ADhnsAC88ADho2AC7yADho2AC7yADho2AC7yADho2AC88ADhnsAC88ADhnsAC88ADho2",
    "AC7yADho2AC7yADho2AC88ADhnsAC88ADhnsAC88ADhnsAC88ADho2AC7yADho2AC7yADho2AC88ADhnsAC88ADh",
    "nsAC88ADho2AC7yADho2AC7yADho2AC88ADhnsAC88ADhnsAC88ADhnsAC88ADho2AC7yADho2AC7yADho2AC88A",
    "DhnsAC88ADhnsAC88ADho2AC7yADho2AC7yADho2AC7yADho2AC88ADhnsAC88ADhnsAC88ADho2AC7yADho2AC7",
    "yADho2AC88ADhnsAC88ADhnsAC88ADhnsAC88ADho2AC7yADho2AC7yADho2AC88ADhnsAC88ADhnsAC88ADho2A",
    "C7yADho2AC7yADho2AC88ADhnsAC88ADhnsAC88ADhnsAC88ADho2AC7yADho2AC7yADho2AC88ADhnsAC88ADhn",
    "sAC88ADho2AC7yADho2AC7yADho2AC7yADho2AC88ADhnsAC88ADhnsAC88ADho2AC7yADho2AC7yADho2AC88AD",
    "hnsAC88ADhnsAC88ADhnsAC88ADho2AC7yADho2AC7yADho2AC88ADhnsAC88ADhnsAC88ADho2AC7yADho2AC7y",
    "ADho2AC88ADhnsAC88ADhnsAC88ADhnsAC88ADho2AC7yADho2AC7yADho2AC88ADhnsAC88ADhnsAC88ADho2AC",
    "7yADho2AC7yADho2AC7yADho2AC88ADhnsAC88ADhnsAC88ADho2AC7yADho2AC7yADho2AC88ADhnsAC88ADhns",
    "AC88ADhnsAC"]),
  ("Europe/Malta",
    String.join ["Dm5YnhAuiAkvoo2pXBhqvsywZC2pYBhikIChipYB+gIChnxYB7sICho1YB-wIChijYBhqn2ICljkQB7yAChjuABh",
    "h+AC-wABhk+AC-jQBhiqQChmiAB+lQChmiAB7yQCho2ABhl3vQC3zYBht+IC2qABht+AC2qABhvoAC2qABht+AC2",
    "qABhs0AC30ABht+AC30ABhh+AChikABhmoAC74ABhowQC87YBhnsIC87YBhnsIC87YBhnsIC87YBhnsIC87YBhk+",
    "IChgzYBhjuIChikABhikAChikABhikAChikABhikAChjuABhikAChikABhikAChikABhikAChikABhikAChikABh",
    "ikAChikABhikAChjuABhikAChikABhikAChikABhikAChikABhikAChikABhikAChikABhjuAChnsAB88AChnsAB",
    "88AChnsAB88ACho2AB7yACho2AB7yACho2AB88AChnsAB88AChnsAB88ACho2AB7yACho2AB7yACho2AB7yACho2",
    "AB88AChnsAB88AChnsAB88ACho2AB7yACho2AB7yACho2AB88AChnsAB88AChnsAB88AChnsAB88ACho2AB7yACh",
    "o2AB7yACho2AB88AChnsAB88AChnsAB88ACho2AB7yACho2AB7yACho2AB88AChnsAB88AChnsAB88AChnsAB88A",
    "Cho2AB7yACho2AB7yACho2AB88AChnsAB88AChnsAB88ACho2AB7yACho2AB7yACho2AB7yACho2AB88AChnsAB8",
    "8AChnsAB88ACho2AB7yACho2AB7yACho2AB88AChnsAB88AChnsAB88AChnsAB88ACho2AB7yACho2AB7yACho2A",
    "B88AChnsAB88AChnsAB88ACho2AB7yACho2AB7yACho2AB88AChnsAB88AChnsAB88AChnsAB88ACho2AB7yACho",
    "2AB7yACho2AB88AChnsAB88AChnsAB88ACho2AB7yACho2AB7yACho2AB7yACho2AB88AChnsAB88AChnsAB88AC",
    "ho2AB7yACho2AB7yACho2AB88AChnsAB88AChnsAB88AChnsAB88ACho2AB7yACho2AB7yACho2AB88AChnsAB88",
    "AChnsAB88ACho2AB7yACho2AB7yACho2AB88AChnsAB88AChnsAB88AChnsAB88ACho2AB7yACho2AB7yACho2AB",
    "88AChnsAB88AChnsAB88ACho2AB7yACho2AB7yACho2AB7yACho2AB88AChnsAB88AChnsAB88ACho2AB7yACho2",
    "AB7yACho2AB88AChnsAB88AChnsAB88AChnsAB"]),
  ("Europe/Minsk",
    String.join ["Gs9Qs8QuiA1jAnhA8kAlppk69PBizsrwhBCrxp3yRD3y1YCi8pAE7yAChjuAEhikACxhIDiu0tYFhipYDhikIFhi",
    "pYDhikIFhipYDhiqIFhikQDhikAFhikADhikAFhikADhikAFhikADhikAFhikADhikAFhikADkp6IChikADhikAC",
    "hikADhikAChikADhikAChikADhikAChjuADhnsAC88ADhnsAC88ADhnsAC88ADho2AC7yADho2AC7yADho2AC88A",
    "DhnsAC88ADhnsAC88ADho2AC7yADho2AC7yADho2AC7yADho2AC88ADhnsAC88ADhnsAC88ADho2AC7yAD"]),
  ("Europe/Moscow",
    String.join ["IxzSx3O44O-5O8kA1jAhjlAuiAjk0jwzRBh7-p7FChhyAB9hYD0iIChwrYDk-mpPEozAFjm+AEmrYG+4AEl0IFik",
    "uIHww4IFjs1xYEhipYFhikIEhipYFhikIEhipYFhiqIEhikQFhikAEhikAFhikAEhikAFhikAEhikAFhikAEhikA",
    "FhikAEhikAFhikAEhjuAFikoIH1gAFtjYEhikAFhikAEhikAFhikAEhikAFhikAEhikAFhjuAEhnsAF88AEhnsAF",
    "88AEhnsAF88AEho2AF7yAEho2AF7yAEho2AF88AEhnsAF88AEhnsAF88AEho2AF7yAEho2AF7yAEho2AF7yAEho2",
    "AF88AEhnsAF88AEhnsAF88AEho2AF7yAEn1tYF"]),
  ("Europe/Paris",
    String.join ["EhjCAnhAuiAjuz+37BBp880qDC0uABhg0AChk+AB82AChnyAB7sACho8AB44AChvoAB60AChqmAB8qAChk4ABhrq",
    "AC4+ABhg6AChjuABhikAChikABhk4AC-wABhjuAChg6ABhk4AChg6ABhk4AC-wABhjuAChg6ABhk4AC-wABhikAC",
    "hikABhg6AChk4ABhikAChikABhg6AChjuABhk4AC-wABhikAChikABhg6AChjuABhk4ACho2ABysYC05ADljkYC7",
    "yADhjuAChikADhjnQChhgQD-qACihq5YDhijYChjuQDhg6AChjuADhikAChikADhikAChjuADhg6AChikADhikAC",
    "hikADhikAChikADhikAChikADhjuAChikADhikAChikADhikAChikADhikAChikADhikAChikADhikAChikADhju",
    "AChikADhikAChikADhikAChikADhikAChikADhikAChikADhikAChjuADhnsAC88ADhnsAC88ADhnsAC88ADho2A",
    "C7yADho2AC7yADho2AC88ADhnsAC88ADhnsAC88ADho2AC7yADho2AC7yADho2AC7yADho2AC88ADhnsAC88ADhn",
    "sAC88ADho2AC7yADho2AC7yADho2AC88ADhnsAC88ADhnsAC88ADhnsAC88ADho2AC7yADho2AC7yADho2AC88AD",
    "hnsAC88ADhnsAC88ADho2AC7yADho2AC7yADho2AC88ADhnsAC88ADhnsAC88ADhnsAC88ADho2AC7yADho2AC7y",
    "ADho2AC88ADhnsAC88ADhnsAC88ADho2AC7yADho2AC7yADho2AC7yADho2AC88ADhnsAC88ADhnsAC88ADho2AC",
    "7yADho2AC7yADho2AC88ADhnsAC88ADhnsAC88ADhnsAC88ADho2AC7yADho2AC7yADho2AC88ADhnsAC88ADhns",
    "AC88ADho2AC7yADho2AC7yADho2AC88ADhnsAC88ADhnsAC88ADhnsAC88ADho2AC7yADho2AC7yADho2AC88ADh",
    "nsAC88ADhnsAC88ADho2AC7yADho2AC7yADho2AC7yADho2AC88ADhnsAC88ADhnsAC88ADho2AC7yADho2AC7yA",
    "Dho2AC88ADhnsAC88ADhnsAC88ADhnsAC88ADho2AC7yADho2AC7yADho2AC88ADhnsAC88ADhnsAC88ADho2AC7",
    "yADho2AC7yADho2AC88ADhnsAC88ADhnsAC88ADhnsAC88ADho2AC7yADho2AC7yADho2AC88ADhnsAC88ADhnsA",
    "C88ADho2AC7yADho2AC7yADho2AC7yADho2AC88ADhnsAC88ADhnsAC88ADho2AC7yADho2AC7yADho2AC88ADhn",
    "sAC88ADhnsAC88ADhnsAC"]),
  ("Europe/Prague",
    String.join ["Em4QnhAuiAAkzmgqwPBhunw2mRC82IBhk+QC88ABhnsAC88ABhujoAClxmAB7yAChjuABhikAChikABhikAChikA",
    "Bho2AC82ABqwIDv4ABqvYC-wABhk4AC-wABhjoAChhgABh-j+AChikABhjuAChg6ABhikAChikABhikAChikABhi",
    "kAChikABhikAChjuABhikAChikABhikAChikABhikAChikABhikAChikABhikAChikABhikAChjuABhikAChikAB",
    "hikAChikABhikAChikABhikAChikABhikAChikABhjuAChnsAB88AChnsAB88AChnsAB88ACho2AB7yACho2AB7y",
    "ACho2AB88AChnsAB88AChnsAB88ACho2AB7yACho2AB7yACho2AB7yACho2AB88AChnsAB88AChnsAB88ACho2AB",
    "7yACho2AB7yACho2AB88AChnsAB88AChnsAB88AChnsAB88ACho2AB7yACho2AB7yACho2AB88AChnsAB88AChns",
    "AB88ACho2AB7yACho2AB7yACho2AB88AChnsAB88AChnsAB88AChnsAB88ACho2AB7yACho2AB7yACho2AB88ACh",
    "nsAB88AChnsAB88ACho2AB7yACho2AB7yACho2AB7yACho2AB88AChnsAB88AChnsAB88ACho2AB7yACho2AB7yA",
    "Cho2AB88AChnsAB88AChnsAB88AChnsAB88ACho2AB7yACho2AB7yACho2AB88AChnsAB88AChnsAB88ACho2AB7",
    "yACho2AB7yACho2AB88AChnsAB88AChnsAB88AChnsAB88ACho2AB7yACho2AB7yACho2AB88AChnsAB88AChnsA",
    "B88ACho2AB7yACho2AB7yACho2AB7yACho2AB88AChnsAB88AChnsAB88ACho2AB7yACho2AB7yACho2AB88AChn",
    "sAB88AChnsAB88AChnsAB88ACho2AB7yACho2AB7yACho2AB88AChnsAB88AChnsAB88ACho2AB7yACho2AB7yAC",
    "ho2AB88AChnsAB88AChnsAB88AChnsAB88ACho2AB7yACho2AB7yACho2AB88AChnsAB88AChnsAB88ACho2AB7y",
    "ACho2AB7yACho2AB7yACho2AB88AChnsAB88AChnsAB88ACho2AB7yACho2AB7yACho2AB88AChnsAB88AChnsAB",
    "88AChnsAB"]),
  ("Europe/Riga",
    String.join ["GrqEyrEuiA1jAnhA8kAjho58gDB88AAhk+ABpyAAu9rQC6495oFDh97YCi73AE7yAChjuAEhikAChikAEihQDiuh",
    "pQFhipYDhikIFhipYDhikIFhipYDhiqIFhikQDhikAFhikADhikAFhikADhikAFhikADhikAFhikADikoIChikAD",
    "hjuAChikADhikAChikADhikAChikADhikAChikADhikAChikADhikAChjuADhikAChikIDhnsAC88ADhnsAC88AD",
    "ho2ACi-6ADho2AC88ADhnsAC88ADhnsAC88ADho2AC7yADho2AC7yADho2AC7yADho2AC88ADhnsAC88ADhnsAC8",
    "8ADho2AC7yADho2AC7yADho2AC88ADhnsAC88ADhnsAC88ADhnsAC88ADho2AC7yADho2AC7yADho2AC88ADhnsA",
    "C88ADhnsAC88ADho2AC7yADho2AC7yADho2AC88ADhnsAC88ADhnsAC88ADhnsAC88ADho2AC7yADho2AC7yADho",
    "2AC88ADhnsAC88ADhnsAC88ADho2AC7yADho2AC7yADho2AC7yADho2AC88ADhnsAC88ADhnsAC88ADho2AC7yAD",
    "ho2AC7yADho2AC88ADhnsAC88ADhnsAC88ADhnsAC88ADho2AC7yADho2AC7yADho2AC88ADhnsAC88ADhnsAC88",
    "ADho2AC7yADho2AC7yADho2AC88ADhnsAC88ADhnsAC88ADhnsAC88ADho2AC7yADho2AC7yADho2AC88ADhnsAC",
    "88ADhnsAC88ADho2AC7yADho2AC7yADho2AC7yADho2AC88ADhnsAC88ADhnsAC88ADho2AC7yADho2AC7yADho2",
    "AC88ADhnsAC88ADhnsAC88ADhnsAC88ADho2AC7yADho2AC7yADho2AC88ADhnsAC88ADhnsAC88ADho2AC7yADh",
    "o2AC7yADho2AC88ADhnsAC88ADhnsAC88ADhnsAC88ADho2AC7yADho2AC7yADho2AC88ADhnsAC88ADhnsAC88A",
    "Dho2AC7yADho2AC7yADho2AC7yADho2AC88ADhnsAC88ADhnsAC88ADho2AC7yADho2AC7yADho2AC88ADhnsAC8",
    "8ADhnsAC88ADhnsAC"]),
  ("Europe/Rome",
    String.join ["Dl7InhAuiAkvot-ofBhwq8AC2pYBhikIChipYB+gIChnxYB7sICho1YB-wIChijYBhqn2ICljkQB7yAChjuABhik",
    "AC-qABhk+AC-jQBhiqQChmiAB+lQChmiAB7yQCho2ABhl3vQC3zYBht+IC2qABht+AC2qABhvoAC2qABht+AC2qA",
    "Bhs0AC30ABht+AC30ABht+AC2qABhs0AC30ABht+AC2qABht+AC2qABhs0AC30ABht+AC30ABhs0AC30ABhjuQCh",
    "g6ABhikAChikABhikAChikABhikAChikABhikAChjuABhikAChikABhikAChikABhikAChikABhikAChikABhikA",
    "ChikABhikAChjuABhikAChikABhikAChikABhikAChikABhikAChikABhikAChikABhjuAChnsAB88AChnsAB88A",
    "ChnsAB88ACho2AB7yACho2AB7yACho2AB88AChnsAB88AChnsAB88ACho2AB7yACho2AB7yACho2AB7yACho2AB8",
    "8AChnsAB88AChnsAB88ACho2AB7yACho2AB7yACho2AB88AChnsAB88AChnsAB88AChnsAB88ACho2AB7yACho2A",
    "B7yACho2AB88AChnsAB88AChnsAB88ACho2AB7yACho2AB7yACho2AB88AChnsAB88AChnsAB88AChnsAB88ACho",
    "2AB7yACho2AB7yACho2AB88AChnsAB88AChnsAB88ACho2AB7yACho2AB7yACho2AB7yACho2AB88AChnsAB88AC",
    "hnsAB88ACho2AB7yACho2AB7yACho2AB88AChnsAB88AChnsAB88AChnsAB88ACho2AB7yACho2AB7yACho2AB88",
    "AChnsAB88AChnsAB88ACho2AB7yACho2AB7yACho2AB88AChnsAB88AChnsAB88AChnsAB88ACho2AB7yACho2AB",
    "7yACho2AB88AChnsAB88AChnsAB88ACho2AB7yACho2AB7yACho2AB7yACho2AB88AChnsAB88AChnsAB88ACho2",
    "AB7yACho2AB7yACho2AB88AChnsAB88AChnsAB88AChnsAB88ACho2AB7yACho2AB7yACho2AB88AChnsAB88ACh",
    "nsAB88ACho2AB7yACho2AB7yACho2AB88AChnsAB88AChnsAB88AChnsAB88ACho2AB7yACho2AB7yACho2AB88A",
    "ChnsAB88AChnsAB88ACho2AB7yACho2AB7yACho2AB7yACho2AB88AChnsAB88AChnsAB88ACho2AB7yACho2AB7",
    "yACho2AB88AChnsAB88AChnsAB88AChnsAB"]),
  ("Europe/Samara",
    String.join ["E3vI1jA8kAhjlAi+--jnfB3vvICjs1xYDhipYChikIDhipYChikIDhipYChiqIDhikQChikADhikAChikADhikAC",
    "hikADhikAChikADhikACikoIBhikAChjuABiomIC+lQDhikAChikADhikAChikADhikAChikADhikAChjuADhnsA",
    "C88ADhnsAC88ADhnsAC88ADho2AC7yADho2AC7yADho2AC88ADhnsAC88ADhnsAC88ADho2AC7yADho2AC7yADho",
    "2AC7yADho2AC88ADhnsAC88ADhnsACilyIB7yAC"]),
  ("Europe/Saratov",
    String.join ["E1zE1jA8kAhjlAi+--jnfB3vvICjs1xYDhipYChikIDhipYChikIDhipYChiqIDhikQChikADhikAChikADhikAC",
    "hikADhikACikoIBhikAChikABhikAChjuABhikACjmsABhikAChikABhikAChikABhikAChikABhjuAChnsAB88A",
    "ChnsAB88AChnsAB88ACho2AB7yACho2AB7yACho2AB88AChnsAB88AChnsAB88ACho2AB7yACho2AB7yACho2AB7",
    "yACho2AB88AChnsAB88AChnsAB88ACho2AB7yACn1tYBkwsIC"]),
  ("Europe/Simferopol",
    String.join ["Gv-Qv+AuiA1jAnhA8kAlppk9-PBizsrwhRCrxp60BD4qpYCik1AE7yAChjuAEhikACh7IDivjzYFhipYDhikIFhi",
    "pYDhikIFhipYDhiqIFhikQDhikAFhikADhikAFhikADhikAFhikADhikAFhikADhikAFhikADh0wACj3uIDhikAC",
    "hikADhikAChikADmxIF7yQDhikAFhikADhjtQFhnsYDikoIC88ADhnsAC88ADho2AC7yADho2AC7yADho2AC88AD",
    "hnsAC88ADhnsAC88ADho2AC7yADho2AC7yADho2AC7yADho2AC88ADhnsAC88ADhnsAC88ADho2AC7yADho2AC7y",
    "ADho2AC88ADhnsAC87YFhnrQD"]),
  ("Europe/Sofia",
    String.join ["Fq9Yt2QuiAnhA1jAlppk49XB8h0qvJCi6ktz-RD7yAChjuADhikAChikADhikICio4kYEhiqIChjnYEhhgIChjnY",
    "Ehg6QChjtQEhg6YChikAEhikAChikAEhjuAChikAEhikAChikAEhikAChikAEhikAChikAEhikAChikAEhikAChi",
    "kAEhjuAChijQEhijYChikIEhijYChikIEhijYChikIEhijYChikIEhijYChjuIEhnrYC89AEhnsAC88AEhnsAC88",
    "AEho2AC7yAEho2AC7yAEho2AC88AEhnsAC88AEhnsAC88AEho2AC7yAEho2AC7yAEho2AC7yAEho2AC88AEhnsAC",
    "88AEhnsAC88AEho2AC7yAEho2AC7yAEho2AC88AEhnsAC88AEhnsAC88AEhnsAC88AEho2AC7yAEho2AC7yAEho2",
    "AC88AEhnsAC88AEhnsAC88AEho2AC7yAEho2AC7yAEho2AC88AEhnsAC88AEhnsAC88AEhnsAC88AEho2AC7yAEh",
    "o2AC7yAEho2AC88AEhnsAC88AEhnsAC88AEho2AC7yAEho2AC7yAEho2AC7yAEho2AC88AEhnsAC88AEhnsAC88A",
    "Eho2AC7yAEho2AC7yAEho2AC88AEhnsAC88AEhnsAC88AEhnsAC88AEho2AC7yAEho2AC7yAEho2AC88AEhnsAC8",
    "8AEhnsAC88AEho2AC7yAEho2AC7yAEho2AC88AEhnsAC88AEhnsAC88AEhnsAC88AEho2AC7yAEho2AC7yAEho2A",
    "C88AEhnsAC88AEhnsAC88AEho2AC7yAEho2AC7yAEho2AC7yAEho2AC88AEhnsAC88AEhnsAC88AEho2AC7yAEho",
    "2AC7yAEho2AC88AEhnsAC88AEhnsAC88AEhnsAC88AEho2AC7yAEho2AC7yAEho2AC88AEhnsAC88AEhnsAC88AE",
    "ho2AC7yAEho2AC7yAEho2AC88AEhnsAC88AEhnsAC88AEhnsAC88AEho2AC7yAEho2AC7yAEho2AC88AEhnsAC88",
    "AEhnsAC88AEho2AC7yAEho2AC7yAEho2AC7yAEho2AC88AEhnsAC88AEhnsAC88AEho2AC7yAEho2AC7yAEho2AC",
    "88AEhnsAC88AEhnsAC88AEhnsAC"]),
  ("Europe/Tallinn",
    String.join ["FrzInhAuiA1jA8kAjh07pjHBshxsJC88ABh1-QAjuth9ZChkn1jpJDir9YCitvAB7yAChjuABhikAChgnIDiulnY",
    "EhipYDhikIEhipYDhikIEhipYDhiqIEhikQDhikAEhikADhikAEhikADhikAEhikADhikAEhikADikoIChikADhj",
    "uAChikADhikAChikADhikAChikADhikAChikADhikAChikADhikAChjuADhnsAC88ADhnsAC88ADhnsIC88ADho2",
    "ACllsADhnsAC88ADhnsAC88ADho2AC7yADho2AC7yADho2AC7yADho2AC88ADhnsAC88ADhnsAC88ADho2AC7yAD",
    "ho2AC7yADho2AC88ADhnsAC88ADhnsAC88ADhnsAC88ADho2AC7yADho2AC7yADho2AC88ADhnsAC88ADhnsAC88",
    "ADho2AC7yADho2AC7yADho2AC88ADhnsAC88ADhnsAC88ADhnsAC88ADho2AC7yADho2AC7yADho2AC88ADhnsAC",
    "88ADhnsAC88ADho2AC7yADho2AC7yADho2AC7yADho2AC88ADhnsAC88ADhnsAC88ADho2AC7yADho2AC7yADho2",
    "AC88ADhnsAC88ADhnsAC88ADhnsAC88ADho2AC7yADho2AC7yADho2AC88ADhnsAC88ADhnsAC88ADho2AC7yADh",
    "o2AC7yADho2AC88ADhnsAC88ADhnsAC88ADhnsAC88ADho2AC7yADho2AC7yADho2AC88ADhnsAC88ADhnsAC88A",
    "Dho2AC7yADho2AC7yADho2AC7yADho2AC88ADhnsAC88ADhnsAC88ADho2AC7yADho2AC7yADho2AC88ADhnsAC8",
    "8ADhnsAC88ADhnsAC88ADho2AC7yADho2AC7yADho2AC88ADhnsAC88ADhnsAC88ADho2AC7yADho2AC7yADho2A",
    "C88ADhnsAC88ADhnsAC88ADhnsAC88ADho2AC7yADho2AC7yADho2AC88ADhnsAC88ADhnsAC88ADho2AC7yADho",
    "2AC7yADho2AC7yADho2AC88ADhnsAC88ADhnsAC88ADho2AC7yADho2AC7yADho2AC88ADhnsAC88ADhnsAC88AD",
    "hnsAC"]),
  ("Europe/Tirane",
    String.join ["DppQnhAuiAjpq3l5PBhx4tpwRCli+QB7yACioABiivxQC8pYBhnyIC87YBhn+IC87YBho2IC7xYBhowIC73YBhow",
    "IC73YBhowIC87YBhmoIC87YBho2IC87YBhk+IC-jYBhiqIChikQBhikAChikABhikAChikABhikAChikABhikACh",
    "ikABhikAChikABhikAChjuABhikAChikABhikAChikABhikAChikABhikAChikABhikAChikABhjuAChnsAB88AC",
    "hnsAB88AChnsAB88ACho2AB7yACho2AB7yACho2AB88AChnsAB88AChnsAB88ACho2AB7yACho2AB7yACho2AB7y",
    "ACho2AB88AChnsAB88AChnsAB88ACho2AB7yACho2AB7yACho2AB88AChnsAB88AChnsAB88AChnsAB88ACho2AB",
    "7yACho2AB7yACho2AB88AChnsAB88AChnsAB88ACho2AB7yACho2AB7yACho2AB88AChnsAB88AChnsAB88AChns",
    "AB88ACho2AB7yACho2AB7yACho2AB88AChnsAB88AChnsAB88ACho2AB7yACho2AB7yACho2AB7yACho2AB88ACh",
    "nsAB88AChnsAB88ACho2AB7yACho2AB7yACho2AB88AChnsAB88AChnsAB88AChnsAB88ACho2AB7yACho2AB7yA",
    "Cho2AB88AChnsAB88AChnsAB88ACho2AB7yACho2AB7yACho2AB88AChnsAB88AChnsAB88AChnsAB88ACho2AB7",
    "yACho2AB7yACho2AB88AChnsAB88AChnsAB88ACho2AB7yACho2AB7yACho2AB7yACho2AB88AChnsAB88AChnsA",
    "B88ACho2AB7yACho2AB7yACho2AB88AChnsAB88AChnsAB88AChnsAB88ACho2AB7yACho2AB7yACho2AB88AChn",
    "sAB88AChnsAB88ACho2AB7yACho2AB7yACho2AB88AChnsAB88AChnsAB88AChnsAB88ACho2AB7yACho2AB7yAC",
    "ho2AB88AChnsAB88AChnsAB88ACho2AB7yACho2AB7yACho2AB7yACho2AB88AChnsAB88AChnsAB88ACho2AB7y",
    "ACho2AB7yACho2AB88AChnsAB88AChnsAB88AChnsAB"]),
  ("Europe/Ulyanovsk",
    String.join ["F22A1jA8kAhjlAuiAi+--jnfB3vvICjs1xYDhipYChikIDhipYChikIDhipYChiqIDhikQChikADhikAChikADhi",
    "kAChikADhikAChikADhikACikoIBhikAChjuABikoIE1gABtjYChikABhikAChikABhikAChikABhikAChikABhj",
    "uAChnsAB88AChnsAB88AChnsAB88ACho2AB7yACho2AB7yACho2AB88AChnsAB88AChnsAB88ACho2AB7yACho2A",
    "B7yACho2AB7yACho2AB88AChnsAB88AChnsAB88ACho2AB7yACn1tYBjhkIC"]),
  ("Europe/Vienna",
    String.join ["Dn1CnhAuiAkwr2wtBBhrtm8jDC82IBhk+QC88ABhnsAC88ABjqqAC+mABhp64AClxmAB7yAChjuABhikAChikABh",
    "ikACh8ABik6AChhgABhh+AChikABhk4AC-wABijt3QChg5YBhikYChikABhikAChikABhikAChikABhikAChjuAB",
    "hikAChikABhikAChikABhikAChikABhikAChikABhikAChikABhikAChjuABhikAChikABhikAChikABhikAChik",
    "ABhikAChikABhikAChikABhjuAChnsAB88AChnsAB88AChnsAB88ACho2AB7yACho2AB7yACho2AB88AChnsAB88",
    "AChnsAB88ACho2AB7yACho2AB7yACho2AB7yACho2AB88AChnsAB88AChnsAB88ACho2AB7yACho2AB7yACho2AB",
    "88AChnsAB88AChnsAB88AChnsAB88ACho2AB7yACho2AB7yACho2AB88AChnsAB88AChnsAB88ACho2AB7yACho2",
    "AB7yACho2AB88AChnsAB88AChnsAB88AChnsAB88ACho2AB7yACho2AB7yACho2AB88AChnsAB88AChnsAB88ACh",
    "o2AB7yACho2AB7yACho2AB7yACho2AB88AChnsAB88AChnsAB88ACho2AB7yACho2AB7yACho2AB88AChnsAB88A",
    "ChnsAB88AChnsAB88ACho2AB7yACho2AB7yACho2AB88AChnsAB88AChnsAB88ACho2AB7yACho2AB7yACho2AB8",
    "8AChnsAB88AChnsAB88AChnsAB88ACho2AB7yACho2AB7yACho2AB88AChnsAB88AChnsAB88ACho2AB7yACho2A",
    "B7yACho2AB7yACho2AB88AChnsAB88AChnsAB88ACho2AB7yACho2AB7yACho2AB88AChnsAB88AChnsAB88AChn",
    "sAB88ACho2AB7yACho2AB7yACho2AB88AChnsAB88AChnsAB88ACho2AB7yACho2AB7yACho2AB88AChnsAB88AC",
    "hnsAB88AChnsAB88ACho2AB7yACho2AB7yACho2AB88AChnsAB88AChnsAB88ACho2AB7yACho2AB7yACho2AB7y",
    "ACho2AB88AChnsAB88AChnsAB88ACho2AB7yACho2AB7yACho2AB88AChnsAB88AChnsAB88AChnsAB"]),
  ("Europe/Vilnius",
    String.join ["Hr7Yp7ArmQnhAuiA1jA8kAlppk57XBilzhpwZClm410RDhtvzlREw1YDhqtkIFh89QEi9hAD7yAEhjuADhikAE2v",
    "IFiuu-YGhipYFhikIGhipYFhikIGhipYFhiqIGhikQFhikAGhikAFhikAGhikAFhikAGhikAFhikAGhikAFikoIE",
    "hikAFhjuAEhikAFhikAEhikAFhikAEhikAFhikAEhikAFhikAEhikAFhikAEhjuAFhnsAE88AFhnsAEikoID88AE",
    "oyqAFhnsAE88AFho2AE7yAFho2AE7yAFho2AE7yAFho2AE88AFhnsAE88AFhnsAE88AFho2AE7yAFho2AE7yAFho",
    "2AE88AFhnsAE88AFhnsAE88AFhnsAE88AFho2AE7yAFho2AE7yAFho2AE88AFhnsAE88AFhnsAE88AFho2AE7yAF",
    "ho2AE7yAFho2AE88AFhnsAE88AFhnsAE88AFhnsAE88AFho2AE7yAFho2AE7yAFho2AE88AFhnsAE88AFhnsAE88",
    "AFho2AE7yAFho2AE7yAFho2AE7yAFho2AE88AFhnsAE88AFhnsAE88AFho2AE7yAFho2AE7yAFho2AE88AFhnsAE",
    "88AFhnsAE88AFhnsAE88AFho2AE7yAFho2AE7yAFho2AE88AFhnsAE88AFhnsAE88AFho2AE7yAFho2AE7yAFho2",
    "AE88AFhnsAE88AFhnsAE88AFhnsAE88AFho2AE7yAFho2AE7yAFho2AE88AFhnsAE88AFhnsAE88AFho2AE7yAFh",
    "o2AE7yAFho2AE7yAFho2AE88AFhnsAE88AFhnsAE88AFho2AE7yAFho2AE7yAFho2AE88AFhnsAE88AFhnsAE88A",
    "FhnsAE88AFho2AE7yAFho2AE7yAFho2AE88AFhnsAE88AFhnsAE88AFho2AE7yAFho2AE7yAFho2AE88AFhnsAE8",
    "8AFhnsAE88AFhnsAE88AFho2AE7yAFho2AE7yAFho2AE88AFhnsAE88AFhnsAE88AFho2AE7yAFho2AE7yAFho2A",
    "E7yAFho2AE88AFhnsAE88AFhnsAE88AFho2AE7yAFho2AE7yAFho2AE88AFhnsAE88AFhnsAE88AFhnsAE"]),
  ("Europe/Volgograd",
    String.join ["E06I1jA8kAhjlAi+hq8yHBz17inJCjs1xYDhipYChikIDhipYChikIDhipYChiqIDhikQChikADhikAChikADhik",
    "AChikADhikACikoIBhikAChikABhikAChjuABhikACjmsABhikAChikABhikAChikABhikAChikABhjuAChnsAB8",
    "8AChnsAB88AChnsAB88ACho2AB7yACho2AB7yACho2AB88AChnsAB88AChnsAB88ACho2AB7yACho2AB7yACho2A",
    "B7yACho2AB88AChnsAB88AChnsAB88ACho2AB7yACn1tYBoyqICk0pYB"]),
  ("Europe/Warsaw",
    String.join ["Ep7AnhAuiA1jAjmq-qyfBhsv2pBC82IBhk+QC88ABhnsACiktYD88ACl5tQBhm0+YClh0AB7yAChjuABhikAChiv",
    "YBhm5YChi7YB+4IChhgQBhnmAC88ABhk4AC-wABhjuAChg6ABws-YC2qABhikAChikABht+AC30ABhikAChikABh",
    "s0AC30ABhs0AC30ABhs0AC30ABht+AC2qAB65iAChg6ABhjuAChikABhikAChikABhjuAChg6ABhikAChikABhik",
    "AChikABhikAChikABhikAChjuABhikAChikABhikAChikABhikAChikABhikIChikABhikAChikABhikAChjuABh",
    "ikAChikABhikAChikABhikAChikABhikAChikABhikAChikABhjuAChnsAB88AChnsAB88AChnsAB88ACho2AB7y",
    "ACho2AB7yACho2AB88AChnsAB88AChnsAB88ACho2AB7yACho2AB7yACho2AB7yACho2AB88AChnsAB88AChnsAB",
    "88ACho2AB7yACho2AB7yACho2AB88AChnsAB88AChnsAB88AChnsAB88ACho2AB7yACho2AB7yACho2AB88AChns",
    "AB88AChnsAB88ACho2AB7yACho2AB7yACho2AB88AChnsAB88AChnsAB88AChnsAB88ACho2AB7yACho2AB7yACh",
    "o2AB88AChnsAB88AChnsAB88ACho2AB7yACho2AB7yACho2AB7yACho2AB88AChnsAB88AChnsAB88ACho2AB7yA",
    "Cho2AB7yACho2AB88AChnsAB88AChnsAB88AChnsAB88ACho2AB7yACho2AB7yACho2AB88AChnsAB88AChnsAB8",
    "8ACho2AB7yACho2AB7yACho2AB88AChnsAB88AChnsAB88AChnsAB88ACho2AB7yACho2AB7yACho2AB88AChnsA",
    "B88AChnsAB88ACho2AB7yACho2AB7yACho2AB7yACho2AB88AChnsAB88AChnsAB88ACho2AB7yACho2AB7yACho",
    "2AB88AChnsAB88AChnsAB88AChnsAB88ACho2AB7yACho2AB7yACho2AB88AChnsAB88AChnsAB88ACho2AB7yAC",
    "ho2AB7yACho2AB88AChnsAB88AChnsAB88AChnsAB88ACho2AB7yACho2AB7yACho2AB88AChnsAB88AChnsAB88",
    "ACho2AB7yACho2AB7yACho2AB7yACho2AB88AChnsAB88AChnsAB88ACho2AB7yACho2AB7yACho2AB88AChnsAB",
    "88AChnsAB88AChnsAB"]),
  ("Europe/Zurich",
    String.join ["EkgAjvUnhAuiAm7h8q3fBis8sugNCi4otx3VD88AChnsAD88ACiyrqIDhikAChikADhikAChikADhikAChikADhj",
    "uAChikADhikAChikADhikAChikADhikAChikADhikAChikADhikAChikADhjuAChikADhikAChikADhikAChikAD",
    "hikAChikADhikAChikADhikAChjuADhnsAC88ADhnsAC88ADhnsAC88ADho2AC7yADho2AC7yADho2AC88ADhnsA",
    "C88ADhnsAC88ADho2AC7yADho2AC7yADho2AC7yADho2AC88ADhnsAC88ADhnsAC88ADho2AC7yADho2AC7yADho",
    "2AC88ADhnsAC88ADhnsAC88ADhnsAC88ADho2AC7yADho2AC7yADho2AC88ADhnsAC88ADhnsAC88ADho2AC7yAD",
    "ho2AC7yADho2AC88ADhnsAC88ADhnsAC88ADhnsAC88ADho2AC7yADho2AC7yADho2AC88ADhnsAC88ADhnsAC88",
    "ADho2AC7yADho2AC7yADho2AC7yADho2AC88ADhnsAC88ADhnsAC88ADho2AC7yADho2AC7yADho2AC88ADhnsAC",
    "88ADhnsAC88ADhnsAC88ADho2AC7yADho2AC7yADho2AC88ADhnsAC88ADhnsAC88ADho2AC7yADho2AC7yADho2",
    "AC88ADhnsAC88ADhnsAC88ADhnsAC88ADho2AC7yADho2AC7yADho2AC88ADhnsAC88ADhnsAC88ADho2AC7yADh",
    "o2AC7yADho2AC7yADho2AC88ADhnsAC88ADhnsAC88ADho2AC7yADho2AC7yADho2AC88ADhnsAC88ADhnsAC88A",
    "DhnsAC88ADho2AC7yADho2AC7yADho2AC88ADhnsAC88ADhnsAC88ADho2AC7yADho2AC7yADho2AC88ADhnsAC8",
    "8ADhnsAC88ADhnsAC88ADho2AC7yADho2AC7yADho2AC88ADhnsAC88ADhnsAC88ADho2AC7yADho2AC7yADho2A",
    "C7yADho2AC88ADhnsAC88ADhnsAC88ADho2AC7yADho2AC7yADho2AC88ADhnsAC88ADhnsAC88ADhnsAC"]),
  ("Indian/Chagos",
    "Dhh+IhjlAhqmAj2wkkmHBlns-zhJC"),
  ("Indian/Maldives",
    "ChiuQhjlAy6g+mPB"),
  ("Indian/Mauritius",
    "D6+Q8kAhjlAj2wj9mPBkuw7z6RC+rYBh25qYC87YB"),
  ("Pacific/Apia",
    String.join ["Hi4oAiwvfiw7PitqfimpfjiuAi7tAkx4o7vfBhnysACiprwkjRDkh-pcEhjoYDhg6AEylAFxpAGhikAFhjuAGhg6",
    "AFhjuAGhg6AFhjuAGhg6AFhjuAGhg6AFhjuAGhg6AFhjuAGhikAFhjuAGhg6AFhjuAGhg6AFhjuAG"]),
  ("Pacific/Auckland",
    String.join ["Fix9Qiw7Qi38Qi0sAi7tAl+pi51PBju-1zkBC2pYBhqgID87cBhnsED87cBhnsED87cBhnsED+lcBhmiED+lcBhm",
    "iEDhmhcB88EDhnrcB88EDhnrcB88EDhnrcB88EDhnrcB88EDho1cB7yEDho1cB88EDio+9cE1gADht+AE4+ADhs0",
    "AE30ADhs0AE30ADhs0AE30ADhs0AE30ADhs0AE30ADhs0AE4+ADhs0AE30ADhs0AE30ADhs0AE30ADhs0AE30ADh",
    "s0AE30ADhs0AE4+ADhs0AE30ADho2AE+mADhmiAE+mADhmiAE+mADhmiAE-wADhk4AE-wADhk4AE-wADhk4AE-wA",
    "DhmiAE+mADhmiAE+mADhmiAE-wADhk4AE-wADhk4AE-wADhmiAE+mADhmiAE+mADhmiAE-wADhk4AE-wADhk4AE-",
    "wADhk4AE-wADhk4AEhjuADhg6AEhjuADhg6AEhjuADhg6AEhjuADhg6AEhjuADhikAEhjuADhg6AEhjuADhg6AEh",
    "juADhg6AEhjuADhg6AEhjuADhg6AEhjuADhikAEhjuADhg6AEhjuADhg6AEhjuADhg6AEhjuADhg6AEhjuADhg6A",
    "Ehk4ADhg6AEhjuADhg6AEhjuADhg6AEhjuADhg6AEhjuADhg6AEhjuADhikAEhjuADhg6AEhjuADhg6AEhjuADhg",
    "6AEhjuADhg6AEhjuADhg6AEhjuADhikAEhjuADhg6AEhjuADhg6AEhjuADhg6AEhjuADhg6AEhjuADhikAEhjuAD",
    "hg6AEhjuADhg6AEhjuADhg6AEhjuADhg6AEhjuADhg6AEhjuADhikAEhjuADhg6AEhjuADhg6AEhjuADhg6AEhju",
    "ADhg6AEhjuADhg6AEhk4ADhg6AEhjuADhg6AEhjuADhg6AEhjuADhg6AEhjuADhg6AEhjuADhikAEhjuADhg6AEh",
    "juADhg6AEhjuADhg6AEhjuADhg6AEhjuADhg6AEhjuADhikAEhjuADhg6AEhjuADhg6AEhjuADhg6AEhjuADhg6A",
    "EhjuADhikAEhjuADhg6AEhjuADhg6AEhjuADhg6AEhjuADhg6AEhjuADhg6AEhjuADhikAEhjuADhg6AEhjuADhg",
    "6AEhjuADhg6AEhjuADhg6AEhjuADhg6AEhk4ADhg6AEhjuADhg6AEhjuADhg6AEhjuADhg6AEhjuADhg6AEhjuAD",
    "hikAEhjuADhg6AEhjuADhg6AEhjuADhg6AEhjuADhg6AEhjuADhg6AEhjuADhikAEhjuADhg6AEhjuADhg6AEhju",
    "ADhg6AEhjuADhg6AEhjuADhikAEhjuADhg6AEhjuADhg6AEhjuADhg6AE"]),
  ("Pacific/Bougainville",
    "Fio9Qik-AimqAh-pAitrAlppm29PB8m9pmRCi5q2o9BDm3iICk0tyIE"),
  ("Pacific/Chatham",
    String.join ["Ei1-Yi2kIi50Yjg1Yl+pi93XBkxktpjRCh92+SD1gACht+AD4+AChs0AD30AChs0AD30AChs0AD30AChs0AD30AC",
    "hs0AD30AChs0AD4+AChs0AD30AChs0AD30AChs0AD30AChs0AD30AChs0AD30AChs0AD4+AChs0AD30ACho2AD+m",
    "AChmiAD+mAChmiAD+mAChmiAD-wAChk4AD-wAChk4AD-wAChk4AD-wAChmiAD+mAChmiAD+mAChmiAD-wAChk4AD",
    "-wAChk4AD-wAChmiAD+mAChmiAD+mAChmiAD-wAChk4AD-wAChk4AD-wAChk4AD-wAChk4ADhjuAChg6ADhjuACh",
    "g6ADhjuAChg6ADhjuAChg6ADhjuAChikADhjuAChg6ADhjuAChg6ADhjuAChg6ADhjuAChg6ADhjuAChg6ADhjuA",
    "ChikADhjuAChg6ADhjuAChg6ADhjuAChg6ADhjuAChg6ADhjuAChg6ADhk4AChg6ADhjuAChg6ADhjuAChg6ADhj",
    "uAChg6ADhjuAChg6ADhjuAChikADhjuAChg6ADhjuAChg6ADhjuAChg6ADhjuAChg6ADhjuAChg6ADhjuAChikAD",
    "hjuAChg6ADhjuAChg6ADhjuAChg6ADhjuAChg6ADhjuAChikADhjuAChg6ADhjuAChg6ADhjuAChg6ADhjuAChg6",
    "ADhjuAChg6ADhjuAChikADhjuAChg6ADhjuAChg6ADhjuAChg6ADhjuAChg6ADhjuAChg6ADhk4AChg6ADhjuACh",
    "g6ADhjuAChg6ADhjuAChg6ADhjuAChg6ADhjuAChikADhjuAChg6ADhjuAChg6ADhjuAChg6ADhjuAChg6ADhjuA",
    "Chg6ADhjuAChikADhjuAChg6ADhjuAChg6ADhjuAChg6ADhjuAChg6ADhjuAChikADhjuAChg6ADhjuAChg6ADhj",
    "uAChg6ADhjuAChg6ADhjuAChg6ADhjuAChikADhjuAChg6ADhjuAChg6ADhjuAChg6ADhjuAChg6ADhjuAChg6AD",
    "hk4AChg6ADhjuAChg6ADhjuAChg6ADhjuAChg6ADhjuAChg6ADhjuAChikADhjuAChg6ADhjuAChg6ADhjuAChg6",
    "ADhjuAChg6ADhjuAChg6ADhjuAChikADhjuAChg6ADhjuAChg6ADhjuAChg6ADhjuAChg6ADhjuAChikADhjuACh",
    "g6ADhjuAChg6ADhjuAChg6AD"]),
  ("Pacific/Easter",
    String.join ["EhzoPhxmfhqlfhjkfimni-3PBikhn97RC7xYBhs0IC3zYBhk4IC87YBhnsIC87YBho2IC7xYBhmiIC+lYBho2IC7",
    "xYBho2IC87YBhnsIC87YBhnsIC87YBho2IC7xYBho2IC7xYBho2IC87YBhnsICikoAD87YChnsID87YCho2ID7xY",
    "Cho2ID7xYCho2IDhijYChikID87YChnsID87YCho2ID7xYChjuIDhg5YCho2ID87YChnsID87YChnsID87YChnsI",
    "D87YCho2ID7xYCho2ID-vYChk4ID87YChk4IDhjtYChjuID87YCho2ID7xYCho2ID7xYCho2ID7xYCho2ID87YCh",
    "nsID87YChnsID87YCho2ID7xYCho2ID-vYChk4ID87YChnsIDhg5YChjuIDhnrYCz2IDhvnYC30IDhszYC4+IDhr",
    "pYC4+IDjzvYCxiIDhzlYCxiIDhzlYCxiIDhszYC88IDhnrYC88IDhnrYC88IDhnrYC+mIDhmhYC88IDho1YC88ID",
    "hnrYC88IDhnrYC88IDhnrYC88IDhnrYC88IDho1YC7yIDho1YC88IDhnrYC88IDhnrYC88IDhnrYC88IDhnrYC88",
    "IDho1YC7yIDho1YC88IDhnrYC88IDhnrYC88IDhnrYC88IDho1YC7yIDho1YC88IDhnrYC88IDhnrYC88IDhnrYC",
    "88IDhnrYC88IDho1YC7yIDho1YC88IDhnrYC88IDhnrYC88IDhnrYC88IDhnrYC88IDho1YC88IDhnrYC88IDhnr",
    "YC88IDhnrYC88IDhnrYC88IDho1YC7yIDho1YC88IDhnrYC88IDhnrYC88IDhnrYC88IDhnrYC88IDho1YC7yIDh",
    "o1YC88IDhnrYC88IDhnrYC88IDhnrYC88IDho1YC7yIDho1YC88IDhnrYC88IDhnrYC88IDhnrYC88IDhnrYC88I",
    "Dho1YC7yIDho1YC88IDhnrYC88IDhnrYC88IDhnrYC88IDhnrYC88IDho1YC88IDhnrYC88IDhnrYC88IDhnrYC8",
    "8IDhnrYC88IDho1YC7yIDho1YC88IDhnrYC88IDhnrYC88IDhnrYC88IDhnrYC88IDho1YC7yIDho1YC88IDhnrY",
    "C88IDhnrYC88IDhnrYC88IDho1YC7yIDho1YC88IDhnrYC88IDhnrYC88ID"]),
  ("Pacific/Efate",
    String.join ["Diu8YitrAi0sAjtho+0XBj0wvroZCysAB0p2IChijYBhikIChijYBhjuIChg5YBhjuIChijYBhikIChijYBhikIC",
    "hijYBhikIChijYBhikIChijYBhjuIC2pYBhzmICxhYB"]),
  ("Pacific/Fakaofo",
    "DiwoPitqfi7tAkh5i1nPBmw45iiRC"),
  ("Pacific/Fiji",
    String.join ["Diz8Ai0sAi7tAjl9xnjfBk8k9ziBC2qABhvoAC1gAB08iAC2qABhnsAC4+ABhrqACxiABhzmACxiABh0wACv3YBh",
    "16ICuuABh16ACuuABh3kACtkABh3kACtkABh3kACtkABh4uACr6ABigqACloAB"]),
  ("Pacific/Galapagos",
    "Dhp-fhjkfhqlfipru53fBjnux79BCu5iIBs9YC"),
  ("Pacific/Gambier",
    "Ch-oHh-ofjr1+7-XB"),
  ("Pacific/Guadalcanal",
    "Ciq-IitrAjr2jmnHB"),
  ("Pacific/Guam",
    String.join ["Fjk8Xij7IimqAh-pAitrAnrj49jHBj36+ACitgl0pJDl04IC-84IEjtjYCujkIEi0wz4ZC4n7nJEtjYChs0IE49Y",
    "ChrqIE49YCk8mIEtjYCk6kIEuv7iZChosm1JE3zYC"]),
  ("Pacific/Honolulu",
    "Eip-bip6Pii5Pimpfkrj+n0DBimkzpoVCkgIBy1pYCn5lYBjzwID"),
  ("Pacific/Kanton",
    "EAi0rfitqfi7tAh86synfBi6ilAChg0rYD"),
  ("Pacific/Kiritimati",
    "Eip3fiq-fimpfjiuAkh5i73fBk0j604BC81886BD"),
  ("Pacific/Kosrae",
    "Gi8rHissYitrAh-pAimqAi0sAnrj5l0XBj36+AC57t85ZDppgQChmq-QEpi6IDpo6IChz3hQFh+znYC"),
  ("Pacific/Kwajalein",
    "GiuuAitrAimqAh-pAi0rfi0sAkh5nz9fBij28u7BCpi6IDmjmIBh281QEhzkjYF"),
  ("Pacific/Marquesas",
    "CihsPii5Pjr1+57PB"),
  ("Pacific/Nauru",
    "EiunYiw7Qh-pAi0sAi8jjqvXBho1m-sJCmvsUBinw-cD"),
  ("Pacific/Niue",
    "Div0Xiv1fitqfhgr6q7HB2g1nhJC"),
  ("Pacific/Norfolk",
    String.join ["Giu3Qiu4Aiw7Qi38QitrAi0sAkh5n0nPBi+hvwvRChs53o+RD30ACi278AEoyqEFhikAEhikAFhikAEhikAFhikA",
    "EhikAFhikAEhikAFhjuAEhikAFhikAEhikAFhikAEhikAFhikAEhikAFhikAEhikAFhikAEhjuAFhikAEhikAFhi",
    "kAEhikAFhikAEhikAFhikAEhikAFhikAEhikAFhikAEhjuAFhikAEhikAFhikAEhikAFhikAEhikAFhikAEhikAF",
    "hikAEhjuAFhikAEhikAFhikAEhikAFhikAEhikAFhikAEhikAFhikAEhikAFhikAEhjuAFhikAEhikAFhikAEhik",
    "AFhikAEhikAFhikAEhikAFhikAEhikAFhjuAEhikAFhikAEhikAFhikAEhikAFhikAEhikAFhikAEhikAFhikAEh",
    "juAFhikAEhikAFhikAEhikAFhikAEhikAFhikAEhikAFhikAEhikAFhikAEhjuAFhikAEhikAFhikAEhikAFhikA",
    "EhikAFhikAEhikAFhikAEhjuAFhikAEhikAFhikAEhikAFhikAEhikAFhikAEhikAFhikAEhikAFhikAEhjuAFhi",
    "kAEhikAFhikAEhikAFhikAEhikAFhikAEhikAFhikAEhikAFhjuAEhikAFhikAEhikAFhikAEhikAFhikAEhikAF",
    "hikAEhikAFhikAEhjuAFhikAEhikAFhikAEhikAFhikAEhikAFhikAEhikAFhikAEhikAFhikAEhjuAFhikAEhik",
    "AFhikAEhikAFhikAEhikAFhikAEhikAFhikAEhjuAFhikAEhikAFhikAEhikAFhikAEhikAF"]),
  ("Pacific/Noumea",
    "DiugYitrAi0sAjtho94XBj7+j69ZCv9YBh0qICwjYBhmgqYCxiAB"),
  ("Pacific/Pago_Pago",
    "Di43QiwgPitqfkx4o7-PBhnysAC"),
  ("Pacific/Palau",
    "Djp2Xh-hIh-pAnrj44pHBj36+AC"),
  ("Pacific/Pitcairn",
    "Dh8-Hh74Ph4nfkh5jowXBl3h0pxJC"),
  ("Pacific/Port_Moresby",
    "Dik-Qik-AimqAlppmy-PB8m9loRC"),
  ("Pacific/Rarotonga",
    String.join ["Fi97Qiq8Pip6Pii5Pimpfkj2sxzPBjxgwAChxhq9mBD0-YEhs0ED3zcEhs0ED3zcEhs0ED49cEhs0ED3zcEhs0ED",
    "3zcEhs0ED3zcEhs0ED3zcEhs0ED3zcEhs0ED49cEhs0ED3zcEhs0ED3zcEhs0ED3zcE"]),
  ("Pacific/Tahiti",
    "CimjPimpfjr1+1kPB"),
  ("Pacific/Tarawa",
    "CixjIi0sAkh5n2zHB"),
  ("Pacific/Tongatapu",
    "Ei20Ai23Ai7tAjiuAht3px7fB85xh9BCio9lz8BD+4AChrqADv3YCh0wIDv3YC-z+IDtkAC")]

/-- Other names of zones. -/
def zoneAliases : List (String × String) := [
  ("Africa/Accra", "Africa/Abidjan"),
  ("Africa/Addis_Ababa", "Africa/Nairobi"),
  ("Africa/Asmara", "Africa/Nairobi"),
  ("Africa/Asmera", "Africa/Nairobi"),
  ("Africa/Bamako", "Africa/Abidjan"),
  ("Africa/Bangui", "Africa/Lagos"),
  ("Africa/Banjul", "Africa/Abidjan"),
  ("Africa/Blantyre", "Africa/Maputo"),
  ("Africa/Brazzaville", "Africa/Lagos"),
  ("Africa/Bujumbura", "Africa/Maputo"),
  ("Africa/Conakry", "Africa/Abidjan"),
  ("Africa/Dakar", "Africa/Abidjan"),
  ("Africa/Dar_es_Salaam", "Africa/Nairobi"),
  ("Africa/Djibouti", "Africa/Nairobi"),
  ("Africa/Douala", "Africa/Lagos"),
  ("Africa/Freetown", "Africa/Abidjan"),
  ("Africa/Gaborone", "Africa/Maputo"),
  ("Africa/Harare", "Africa/Maputo"),
  ("Africa/Kampala", "Africa/Nairobi"),
  ("Africa/Kigali", "Africa/Maputo"),
  ("Africa/Kinshasa", "Africa/Lagos"),
  ("Africa/Libreville", "Africa/Lagos"),
  ("Africa/Lome", "Africa/Abidjan"),
  ("Africa/Luanda", "Africa/Lagos"),
  ("Africa/Lubumbashi", "Africa/Maputo"),
  ("Africa/Lusaka", "Africa/Maputo"),
  ("Africa/Malabo", "Africa/Lagos"),
  ("Africa/Maseru", "Africa/Johannesburg"),
  ("Africa/Mbabane", "Africa/Johannesburg"),
  ("Africa/Mogadishu", "Africa/Nairobi"),
  ("Africa/Niamey", "Africa/Lagos"),
  ("Africa/Nouakchott", "Africa/Abidjan"),
  ("Africa/Ouagadougou", "Africa/Abidjan"),
  ("Africa/Porto-Novo", "Africa/Lagos"),
  ("Africa/Timbuktu", "Africa/Abidjan"),
  ("America/Anguilla", "America/Puerto_Rico"),
  ("America/Antigua", "America/Puerto_Rico"),
  ("America/Argentina/ComodRivadavia", "America/Argentina/Catamarca"),
  ("America/Aruba", "America/Puerto_Rico"),
  ("America/Atikokan", "America/Panama"),
  ("America/Atka", "America/Adak"),
  ("America/Blanc-Sablon", "America/Puerto_Rico"),
  ("America/Buenos_Aires", "America/Argentina/Buenos_Aires"),
  ("America/Catamarca", "America/Argentina/Catamarca"),
  ("America/Cayman", "America/Panama"),
  ("America/Coral_Harbour", "America/Panama"),
  ("America/Cordoba", "America/Argentina/Cordoba"),
  ("America/Creston", "America/Phoenix"),
  ("America/Curacao", "America/Puerto_Rico"),
  ("America/Dominica", "America/Puerto_Rico"),
  ("America/Ensenada", "America/Tijuana"),
  ("America/Fort_Wayne", "America/Indiana/Indianapolis"),
  ("America/Godthab", "America/Nuuk"),
  ("America/Grenada", "America/Puerto_Rico"),
  ("America/Guadeloupe", "America/Puerto_Rico"),
  ("America/Indianapolis", "America/Indiana/Indianapolis"),
  ("America/Jujuy", "America/Argentina/Jujuy"),
  ("America/Knox_IN", "America/Indiana/Knox"),
  ("America/Kralendijk", "America/Puerto_Rico"),
  ("America/Louisville", "America/Kentucky/Louisville"),
  ("America/Lower_Princes", "America/Puerto_Rico"),
  ("America/Marigot", "America/Puerto_Rico"),
  ("America/Mendoza", "America/Argentina/Mendoza"),
  ("America/Montreal", "America/Toronto"),
  ("America/Montserrat", "America/Puerto_Rico"),
  ("America/Nassau", "America/Toronto"),
  ("America/Nipigon", "America/Toronto"),
  ("America/Pangnirtung", "America/Iqaluit"),
  ("America/Port_of_Spain", "America/Puerto_Rico"),
  ("America/Porto_Acre", "America/Rio_Branco"),
  ("America/Rainy_River", "America/Winnipeg"),
  ("America/Rosario", "America/Argentina/Cordoba"),
  ("America/Santa_Isabel", "America/Tijuana"),
  ("America/Shiprock", "America/Denver"),
  ("America/St_Barthelemy", "America/Puerto_Rico"),
  ("America/St_Kitts", "America/Puerto_Rico"),
  ("America/St_Lucia", "America/Puerto_Rico"),
  ("America/St_Thomas", "America/Puerto_Rico"),
  ("America/St_Vincent", "America/Puerto_Rico"),
  ("America/Thunder_Bay", "America/Toronto"),
  ("America/Tortola", "America/Puerto_Rico"),
  ("America/Virgin", "America/Puerto_Rico"),
  ("America/Yellowknife", "America/Edmonton"),
  ("Antarctica/DumontDUrville", "Pacific/Port_Moresby"),
  ("Antarctica/McMurdo", "Pacific/Auckland"),
  ("Antarctica/South_Pole", "Pacific/Auckland"),
  ("Antarctica/Syowa", "Asia/Riyadh"),
  ("Arctic/Longyearbyen", "Europe/Berlin"),
  ("Asia/Aden", "Asia/Riyadh"),
  ("Asia/Ashkhabad", "Asia/Ashgabat"),
  ("Asia/Bahrain", "Asia/Qatar"),
  ("Asia/Brunei", "Asia/Kuching"),
  ("Asia/Calcutta", "Asia/Kolkata"),
  ("Asia/Choibalsan", "Asia/Ulaanbaatar"),
  ("Asia/Chongqing", "Asia/Shanghai"),
  ("Asia/Chungking", "Asia/Shanghai"),
  ("Asia/Dacca", "Asia/Dhaka"),
  ("Asia/Harbin", "Asia/Shanghai"),
  ("Asia/Istanbul", "Europe/Istanbul"),
  ("Asia/Kashgar", "Asia/Urumqi"),
  ("Asia/Katmandu", "Asia/Kathmandu"),
  ("Asia/Kuala_Lumpur", "Asia/Singapore"),
  ("Asia/Kuwait", "Asia/Riyadh"),
  ("Asia/Macao", "Asia/Macau"),
  ("Asia/Muscat", "Asia/Dubai"),
  ("Asia/Phnom_Penh", "Asia/Bangkok"),
  ("Asia/Rangoon", "Asia/Yangon"),
  ("Asia/Saigon", "Asia/Ho_Chi_Minh"),
  ("Asia/Tel_Aviv", "Asia/Jerusalem"),
  ("Asia/Thimbu", "Asia/Thimphu"),
  ("Asia/Ujung_Pandang", "Asia/Makassar"),
  ("Asia/Ulan_Bator", "Asia/Ulaanbaatar"),
  ("Asia/Vientiane", "Asia/Bangkok"),
  ("Atlantic/Faeroe", "Atlantic/Faroe"),
  ("Atlantic/Jan_Mayen", "Europe/Berlin"),
  ("Atlantic/Reykjavik", "Africa/Abidjan"),
  ("Atlantic/St_Helena", "Africa/Abidjan"),
  ("Australia/ACT", "Australia/Sydney"),
  ("Australia/Canberra", "Australia/Sydney"),
  ("Australia/Currie", "Australia/Hobart"),
  ("Australia/LHI", "Australia/Lord_Howe"),
  ("Australia/NSW", "Australia/Sydney"),
  ("Australia/North", "Australia/Darwin"),
  ("Australia/Queensland", "Australia/Brisbane"),
  ("Australia/South", "Australia/Adelaide"),
  ("Australia/Tasmania", "Australia/Hobart"),
  ("Australia/Victoria", "Australia/Melbourne"),
  ("Australia/West", "Australia/Perth"),
  ("Australia/Yancowinna", "Australia/Broken_Hill"),
  ("Brazil/Acre", "America/Rio_Branco"),
  ("Brazil/DeNoronha", "America/Noronha"),
  ("Brazil/East", "America/Sao_Paulo"),
  ("Brazil/West", "America/Manaus"),
  ("CET", "Europe/Brussels"),
  ("CST6CDT", "America/Chicago"),
  ("Canada/Atlantic", "America/Halifax"),
  ("Canada/Central", "America/Winnipeg"),
  ("Canada/Eastern", "America/Toronto"),
  ("Canada/Mountain", "America/Edmonton"),
  ("Canada/Newfoundland", "America/St_Johns"),
  ("Canada/Pacific", "America/Vancouver"),
  ("Canada/Saskatchewan", "America/Regina"),
  ("Canada/Yukon", "America/Whitehorse"),
  ("Chile/Continental", "America/Santiago"),
  ("Chile/EasterIsland", "Pacific/Easter"),
  ("Cuba", "America/Havana"),
  ("EET", "Europe/Athens"),
  ("EST", "America/Panama"),
  ("EST5EDT", "America/New_York"),
  ("Egypt", "Africa/Cairo"),
  ("Eire", "Europe/Dublin"),
  ("Etc/GMT+0", "Etc/GMT"),
  ("Etc/GMT-0", "Etc/GMT"),
  ("Etc/GMT0", "Etc/GMT"),
  ("Etc/Greenwich", "Etc/GMT"),
  ("Etc/UCT", "Etc/UTC"),
  ("Etc/Universal", "Etc/UTC"),
  ("Etc/Zulu", "Etc/UTC"),
  ("Europe/Amsterdam", "Europe/Brussels"),
  ("Europe/Belfast", "Europe/London"),
  ("Europe/Bratislava", "Europe/Prague"),
  ("Europe/Busingen", "Europe/Zurich"),
  ("Europe/Copenhagen", "Europe/Berlin"),
  ("Europe/Guernsey", "Europe/London"),
  ("Europe/Isle_of_Man", "Europe/London"),
  ("Europe/Jersey", "Europe/London"),
  ("Europe/Kiev", "Europe/Kyiv"),
  ("Europe/Ljubljana", "Europe/Belgrade"),
  ("Europe/Luxembourg", "Europe/Brussels"),
  ("Europe/Mariehamn", "Europe/Helsinki"),
  ("Europe/Monaco", "Europe/Paris"),
  ("Europe/Nicosia", "Asia/Nicosia"),
  ("Europe/Oslo", "Europe/Berlin"),
  ("Europe/Podgorica", "Europe/Belgrade"),
  ("Europe/San_Marino", "Europe/Rome"),
  ("Europe/Sarajevo", "Europe/Belgrade"),
  ("Europe/Skopje", "Europe/Belgrade"),
  ("Europe/Stockholm", "Europe/Berlin"),
  ("Europe/Tiraspol", "Europe/Chisinau"),
  ("Europe/Uzhgorod", "Europe/Kyiv"),
  ("Europe/Vaduz", "Europe/Zurich"),
  ("Europe/Vatican", "Europe/Rome"),
  ("Europe/Zagreb", "Europe/Belgrade"),
  ("Europe/Zaporozhye", "Europe/Kyiv"),
  ("GB", "Europe/London"),
  ("GB-Eire", "Europe/London"),
  ("GMT", "Etc/GMT"),
  ("GMT+0", "Etc/GMT"),
  ("GMT-0", "Etc/GMT"),
  ("GMT0", "Etc/GMT"),
  ("Greenwich", "Etc/GMT"),
  ("HST", "Pacific/Honolulu"),
  ("Hongkong", "Asia/Hong_Kong"),
  ("Iceland", "Africa/Abidjan"),
  ("Indian/Antananarivo", "Africa/Nairobi"),
  ("Indian/Christmas", "Asia/Bangkok"),
  ("Indian/Cocos", "Asia/Yangon"),
  ("Indian/Comoro", "Africa/Nairobi"),
  ("Indian/Kerguelen", "Indian/Maldives"),
  ("Indian/Mahe", "Asia/Dubai"),
  ("Indian/Mayotte", "Africa/Nairobi"),
  ("Indian/Reunion", "Asia/Dubai"),
  ("Iran", "Asia/Tehran"),
  ("Israel", "Asia/Jerusalem"),
  ("Jamaica", "America/Jamaica"),
  ("Japan", "Asia/Tokyo"),
  ("Kwajalein", "Pacific/Kwajalein"),
  ("Libya", "Africa/Tripoli"),
  ("MET", "Europe/Brussels"),
  ("MST", "America/Phoenix"),
  ("MST7MDT", "America/Denver"),
  ("Mexico/BajaNorte", "America/Tijuana"),
  ("Mexico/BajaSur", "America/Mazatlan"),
  ("Mexico/General", "America/Mexico_City"),
  ("NZ", "Pacific/Auckland"),
  ("NZ-CHAT", "Pacific/Chatham"),
  ("Navajo", "America/Denver"),
  ("PRC", "Asia/Shanghai"),
  ("PST8PDT", "America/Los_Angeles"),
  ("Pacific/Chuuk", "Pacific/Port_Moresby"),
  ("Pacific/Enderbury", "Pacific/Kanton"),
  ("Pacific/Funafuti", "Pacific/Tarawa"),
  ("Pacific/Johnston", "Pacific/Honolulu"),
  ("Pacific/Majuro", "Pacific/Tarawa"),
  ("Pacific/Midway", "Pacific/Pago_Pago"),
  ("Pacific/Pohnpei", "Pacific/Guadalcanal"),
  ("Pacific/Ponape", "Pacific/Guadalcanal"),
  ("Pacific/Saipan", "Pacific/Guam"),
  ("Pacific/Samoa", "Pacific/Pago_Pago"),
  ("Pacific/Truk", "Pacific/Port_Moresby"),
  ("Pacific/Wake", "Pacific/Tarawa"),
  ("Pacific/Wallis", "Pacific/Tarawa"),
  ("Pacific/Yap", "Pacific/Port_Moresby"),
  ("Poland", "Europe/Warsaw"),
  ("Portugal", "Europe/Lisbon"),
  ("ROC", "Asia/Taipei"),
  ("ROK", "Asia/Seoul"),
  ("Singapore", "Asia/Singapore"),
  ("Turkey", "Europe/Istanbul"),
  ("UCT", "Etc/UTC"),
  ("US/Alaska", "America/Anchorage"),
  ("US/Aleutian", "America/Adak"),
  ("US/Arizona", "America/Phoenix"),
  ("US/Central", "America/Chicago"),
  ("US/East-Indiana", "America/Indiana/Indianapolis"),
  ("US/Eastern", "America/New_York"),
  ("US/Hawaii", "Pacific/Honolulu"),
  ("US/Indiana-Starke", "America/Indiana/Knox"),
  ("US/Michigan", "America/Detroit"),
  ("US/Mountain", "America/Denver"),
  ("US/Pacific", "America/Los_Angeles"),
  ("US/Samoa", "Pacific/Pago_Pago"),
  ("UTC", "Etc/UTC"),
  ("Universal", "Etc/UTC"),
  ("W-SU", "Europe/Moscow"),
  ("WET", "Europe/Lisbon"),
  ("Zulu", "Etc/UTC")]

end LogPipeline.Time
